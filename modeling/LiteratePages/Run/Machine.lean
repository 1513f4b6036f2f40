import LiteratePages.Run.Scope
import LiteratePages.Run.Fault

/-!
The state of running code, and computations on it. A computation that fails keeps what it did
before: bindings stay, and what was printed stays printed.
-/
namespace LiteratePages

/-- What a run lets others see of the files and the code that it used, in order. -/
inductive Event where
  | entered (path : String)
  | read (path : String)
  | left (path : String)
  /-- A template was not entered because too many are open. -/
  | refused (path : String)
  | ran (code : String)
deriving Repr, DecidableEq

abbrev Journal := List Event

def Journal.codes (journal : Journal) : List String :=
  journal.filterMap fun
    | .ran code => some code
    | _ => none

/-- What comes of calling a host function: its result, what it printed before it ended, and the
files and code that it used. -/
structure Reply where
  result : Except Fault Value
  printed : String
  journal : Journal

/-- How host functions are called. Two functions with one name may still do different things. -/
abbrev Host := (name : String) → (identity : Nat) → (arguments : List Value) → Reply

def Host.none : Host := fun _ _ _ => ⟨.error (.notCallable "Function"), "", []⟩

structure Machine where
  scope : Scope
  output : String
  journal : Journal

def Run (α : Type) : Type := Machine → Except Failure α × Machine

namespace Run

variable {α β : Type}

def pure (value : α) : Run α := fun machine => (.ok value, machine)

def bind (first : Run α) (next : α → Run β) : Run β := fun machine =>
  match first machine with
  | (.ok value, machine) => next value machine
  | (.error failure, machine) => (.error failure, machine)

instance : Monad Run where
  pure := pure
  bind := bind

def fail (fault : Fault) (span : Option Code.Span) : Run α := fun machine =>
  (.error ⟨fault, span⟩, machine)

/-- The result of an operation that leaves the machine alone. -/
def lift (result : Except Fault α) (span : Option Code.Span) : Run α := fun machine =>
  match result with
  | .ok value => (.ok value, machine)
  | .error fault => (.error ⟨fault, span⟩, machine)

/-- Places a failure that has no place yet. -/
def located (span : Code.Span) (action : Run α) : Run α := fun machine =>
  match action machine with
  | (.error ⟨fault, .none⟩, machine) => (.error ⟨fault, some span⟩, machine)
  | result => result

def set (name : String) (value : Value) : Run Unit := fun machine =>
  (.ok (), { machine with scope := machine.scope.set name value })

def print (text : String) : Run Unit := fun machine =>
  (.ok (), { machine with output := machine.output ++ text })

/-- The value of a variable, or a function made for the name of a builtin. -/
def lookup (name : String) (span : Code.Span) : Run Value := fun machine =>
  match machine.scope.get? name with
  | some value => (.ok value, machine)
  | .none => match Builtin.named? name with
      | some builtin =>
          let (function, scope) := machine.scope.make (.builtin builtin)
          (.ok (.function function), { machine with scope })
      | .none => (.error ⟨.undefinedVariable name, some span⟩, machine)

def callHost (host : Host) (name : String) (identity : Nat) (arguments : List Value)
    (span : Code.Span) : Run Value := fun machine =>
  let reply := host name identity arguments
  lift reply.result (some span)
    ⟨machine.scope, machine.output ++ reply.printed, machine.journal ++ reply.journal⟩

end Run
end LiteratePages
