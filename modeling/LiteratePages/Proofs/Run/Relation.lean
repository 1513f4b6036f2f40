import LiteratePages.Proofs.Run.Simulation

namespace LiteratePages.Code

/-- A relation between runs of code and of the same code at moved places, kept by all the actions
that running code is made of. -/
structure RunRelation (move : Nat → Nat) (setting other : Setting) where
  Holds : {α : Type} → Run α → Run α → Prop
  pure : ∀ {α : Type} (value : α), Holds (Run.pure value) (Run.pure value)
  bind : ∀ {α β : Type} {first second : Run α} {next follow : α → Run β}, Holds first second →
    (∀ value, Holds (next value) (follow value)) → Holds (first.bind next) (second.bind follow)
  fail : ∀ {α : Type} (fault : Fault) (span : Option Span),
    Holds (Run.fail fault span : Run α) (Run.fail fault (span.map (Span.relocate move)))
  located : ∀ {first second : Run Unit} (span : Span), Holds first second →
    Holds (Run.located span first) (Run.located (span.relocate move) second)
  set : ∀ name value, Holds (Run.set name value) (Run.set name value)
  print : ∀ text, Holds (Run.print text) (Run.print text)
  lookup : ∀ name (span : Span),
    Holds (Run.lookup name span) (Run.lookup name (span.relocate move))
  callHost : ∀ name identity arguments (span : Span),
    Holds (Run.callHost setting.host name identity arguments span)
      (Run.callHost other.host name identity arguments (span.relocate move))
  within : ∀ {α : Type} {first second : Run α} (depth : Nat), Holds first second →
    Holds (setting.within depth first) (other.within depth second)

namespace RunRelation

variable {move : Nat → Nat} {setting other : Setting} (relation : RunRelation move setting other)

def simulation : Simulation move setting other.actions :=
  { relation with }

/-- What holds between single actions holds between the runs of a program. -/
theorem run (program : Program) :
    relation.Holds (program.run setting) ((program.relocate move).run other) := by
  rw [Program.run_eq_runIn other]
  exact relation.simulation.run program

end RunRelation
end LiteratePages.Code
