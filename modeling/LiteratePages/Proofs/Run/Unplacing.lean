import LiteratePages.Proofs.Code.Unplacing
import LiteratePages.Proofs.Run.Sequence

namespace LiteratePages

def Execution.unplaced (execution : Execution) : Execution :=
  { execution with result := execution.result.mapError (ExecutionError.relocate Code.unplace) }

theorem Code.Program.run_unplaced (program : Program) (host : Host) (machine : Machine) :
    program.unplaced.run ⟨some maxDepth, host⟩ machine =
      ((program.run ⟨some maxDepth, host⟩ machine).1.mapError (Failure.relocate unplace),
        (program.run ⟨some maxDepth, host⟩ machine).2) := by
  have displaced := (Run.displaced unplace ⟨some maxDepth, host⟩).run program
  have ran := displaced "" [] machine
  have unchanged : ∀ machine : Machine, machine.prepend "" [] = machine := by
    intro machine
    simp [Machine.prepend]
  rwa [unchanged, unchanged] at ran

/-- Running a piece of code is running its program with every place at the start, but for the
places of failures. -/
theorem interpret_unplaced {code : String} {program : Code.Program}
    (parsed : Code.Program.parse code = .ok program) (host : Host) (scope : Scope) :
    (interpret host code scope).unplaced =
      .ofRun (program.unplaced.run ⟨some maxDepth, host⟩ ⟨scope, "", []⟩) := by
  rw [interpret_eq_ofRun parsed, Code.Program.run_unplaced]
  cases program.run ⟨some maxDepth, host⟩ ⟨scope, "", []⟩ with
  | mk result reached => cases result <;> rfl

end LiteratePages
