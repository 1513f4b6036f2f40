import LiteratePages.Run.Evaluation
import LiteratePages.Code.Program

namespace LiteratePages

/-- What came of running a piece of code: whether it ran to its end, the scope it left, what it
printed, and the files and code used on its behalf. -/
structure Execution where
  result : Except ExecutionError Unit
  scope : Scope
  output : String
  journal : Journal

abbrev Executor := (code : String) → (scope : Scope) → Execution

def maxDepth : Nat := 256

/-- Parses and runs code, with a limit on its levels if there is one. Code that does not parse does
nothing. -/
def interpretWithin (limit : Option Nat) (host : Host) : Executor := fun code scope =>
  match Code.Program.parse code with
  | .error error => ⟨.error (.syntactic error), scope, "", []⟩
  | .ok program =>
      let (result, machine) := program.run ⟨limit, host⟩ ⟨scope, "", []⟩
      let result := match result with
        | .ok () => .ok ()
        | .error failure => .error (.runtime failure)
      ⟨result, machine.scope, machine.output, machine.journal⟩

def interpret (host : Host) : Executor := interpretWithin (some maxDepth) host

end LiteratePages
