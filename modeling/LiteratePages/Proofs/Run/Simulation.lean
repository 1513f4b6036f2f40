import LiteratePages.Proofs.Run.Coupling

namespace LiteratePages.Code

/-- A relation between plain runs of code and computations of the same code at moved places, kept by
all actions. -/
structure Simulation {m : Type → Type} [Monad m] (move : Nat → Nat) (setting : Setting)
    (actions : Actions m) where
  Holds : {α : Type} → Run α → m α → Prop
  pure : ∀ {α : Type} (value : α), Holds (Run.pure value) (Pure.pure value)
  bind : ∀ {α β : Type} {first : Run α} {second : m α} {next : α → Run β} {follow : α → m β},
    Holds first second → (∀ value, Holds (next value) (follow value)) →
    Holds (first.bind next) (second >>= follow)
  fail : ∀ {α : Type} (fault : Fault) (span : Option Span),
    Holds (Run.fail fault span : Run α) (actions.fail fault (span.map (Span.relocate move)))
  located : ∀ {first : Run Unit} {second : m Unit} (span : Span), Holds first second →
    Holds (Run.located span first) (actions.located (span.relocate move) second)
  set : ∀ name value, Holds (Run.set name value) (actions.set name value)
  print : ∀ text, Holds (Run.print text) (actions.print text)
  lookup : ∀ name (span : Span),
    Holds (Run.lookup name span) (actions.lookup name (span.relocate move))
  callHost : ∀ name identity arguments (span : Span),
    Holds (Run.callHost setting.host name identity arguments span)
      (actions.callHost name identity arguments (span.relocate move))
  within : ∀ {α : Type} {first : Run α} {second : m α} (depth : Nat), Holds first second →
    Holds (setting.within depth first) (actions.within depth second)

namespace Simulation

variable {m : Type → Type} [Monad m] {move : Nat → Nat} {setting : Setting} {actions : Actions m}
  (simulation : Simulation move setting actions)

def coupling : Coupling (fun _ => True) move .id setting actions where
  Holds first second := simulation.Holds first second
  pure value := by
    rw [Relabels.relabel_id]
    exact simulation.pure value
  bind := by
    intro α β _ _ first second next follow related later
    apply simulation.bind related
    intro value
    have after := later value
    rwa [Relabels.relabel_id] at after
  fail span _ := simulation.fail _ span
  located := simulation.located
  set name value _ := by
    rw [Value.relabel_id]
    exact simulation.set name value
  print _ _ := simulation.print _
  lookup name span _ := simulation.lookup name span
  callHost name identity arguments span := by
    rw [relabelItems_id]
    exact simulation.callHost name identity arguments span
  within depth _ := simulation.within depth

theorem exec (depth : Nat) (statement : Statement) :
    simulation.Holds (statement.exec setting depth)
      ((statement.relocate move).execIn actions depth) :=
  simulation.coupling.exec depth statement fun _ _ => trivial

theorem run (program : Program) :
    simulation.Holds (program.run setting) ((program.relocate move).runIn actions) :=
  simulation.coupling.run program fun _ _ => trivial

end Simulation

/-- Running code is running it with the actions of a plain run. -/
theorem Program.run_eq_runIn (setting : Setting) (program : Program) :
    program.run setting = program.runIn setting.actions := by
  let same : Simulation id setting setting.actions :=
    { Holds := Eq
      pure := fun _ => rfl
      bind := by
        intro α β first second next follow firsts nexts
        rw [firsts, funext nexts]
        rfl
      fail := by
        intro α fault span
        cases span <;> rfl
      located := by
        intro first second span equal
        rw [equal]
        rfl
      set := fun _ _ => rfl
      print := fun _ => rfl
      lookup := fun _ _ => rfl
      callHost := fun _ _ _ _ => rfl
      within := by
        intro α first second depth equal
        rw [equal]
        rfl }
  have ran : program.run setting = (program.relocate id).runIn setting.actions := same.run program
  rw [ran, program.relocate_id]

end LiteratePages.Code
