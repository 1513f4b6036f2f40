import LiteratePages.Proofs.Run.Coupling

namespace LiteratePages.Code

structure Invariant (allowed : Occurrence → Prop) (setting : Setting) where
  Keeps : {α : Type} → Run α → Prop
  pure : ∀ {α : Type} (value : α), Keeps (Run.pure value)
  bind : ∀ {α β : Type} {first : Run α} {next : α → Run β}, Keeps first →
    (∀ value, Keeps (next value)) → Keeps (first.bind next)
  fail : ∀ {α : Type} {fault : Fault} (span : Option Span), fault ≠ .stackOverflow →
    Keeps (Run.fail fault span : Run α)
  located : ∀ {action : Run Unit} (span : Span), Keeps action → Keeps (Run.located span action)
  set : ∀ name value, allowed (.write name) → Keeps (Run.set name value)
  print : ∀ (builtin : Builtin) arguments, Keeps (Run.print (builtin.printed arguments))
  lookup : ∀ name span, allowed (.read name) → Keeps (Run.lookup name span)
  callHost : ∀ name identity arguments span,
    Keeps (Run.callHost setting.host name identity arguments span)
  within : ∀ {α : Type} {action : Run α} (depth : Nat), allowed (.node depth) → Keeps action →
    Keeps (setting.within depth action)

namespace Invariant

variable {allowed : Occurrence → Prop} {setting : Setting} (invariant : Invariant allowed setting)

def coupling : Coupling allowed id .id setting setting.actions where
  Holds action _ := invariant.Keeps action
  pure := invariant.pure
  bind := invariant.bind
  fail := invariant.fail
  located := invariant.located
  set := invariant.set
  print := invariant.print
  lookup := invariant.lookup
  callHost := invariant.callHost
  within := invariant.within

theorem eval (depth : Nat) (e : Expr) (occurs : ∀ o ∈ e.occurrences depth, allowed o) :
    invariant.Keeps (e.eval setting depth) :=
  invariant.coupling.eval depth e occurs

theorem run (program : Program) (occurs : ∀ o ∈ program.occurrences, allowed o) :
    invariant.Keeps (program.run setting) :=
  invariant.coupling.run program occurs

end Invariant
end LiteratePages.Code
