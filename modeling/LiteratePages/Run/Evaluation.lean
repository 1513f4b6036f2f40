import LiteratePages.Run.Builtin
import LiteratePages.Run.Machine

/-!
What programs do. Expressions and statements run on a machine, each one level deeper than the one
that holds it; with a limit on the levels, code that goes deeper fails.
-/
namespace LiteratePages.Code

/-- What code runs with besides its machine. -/
structure Setting where
  /-- The deepest level that code may reach, if there is a limit. -/
  limit : Option Nat
  host : Host

def Setting.within {α : Type} (setting : Setting) (depth : Nat) (action : Run α) : Run α :=
  match setting.limit with
  | some limit => if limit < depth then Run.fail .stackOverflow none else action
  | none => action

def call (setting : Setting) (callee : Value) (arguments : List Value) (span : Span) : Run Value :=
  match callee with
  | .function ⟨.builtin builtin, _⟩ => do
      Run.print (builtin.printed arguments)
      Run.lift (builtin.apply arguments) (some span)
  | .function ⟨.host name, identity⟩ =>
      Run.callHost setting.host name identity arguments span
  | other => Run.fail (.notCallable other.typeName) (some span)

mutual

def Expr.eval (setting : Setting) (depth : Nat) : Expr → Run Value
  | .string value => setting.within depth (pure (.string value))
  | .number value => setting.within depth (pure (.number value))
  | .boolean value => setting.within depth (pure (.boolean value))
  | .none => setting.within depth (pure .none)
  | .format pieces => setting.within depth do
      return .string (← evalPieces setting (depth + 1) "" pieces)
  | .list items => setting.within depth do
      return .list (← evalAll setting (depth + 1) items)
  | .map entries => setting.within depth do
      return .map (← evalEntries setting (depth + 1) [] entries)
  | .variable name span => setting.within depth (Run.lookup name span)
  | .call callee arguments span => setting.within depth do
      let function ← callee.eval setting (depth + 1)
      let arguments ← evalAll setting (depth + 1) arguments
      call setting function arguments span
  | .index target position span => setting.within depth do
      let target ← target.eval setting (depth + 1)
      let position ← position.eval setting (depth + 1)
      Run.lift (target.atIndex position) (some span)
  | .unary op operand => setting.within depth do
      let operand ← operand.eval setting (depth + 1)
      Run.lift (operand.unary op) Option.none
  | .binary op left right => setting.within depth do
      let first ← left.eval setting (depth + 1)
      match op, first.truthy with
      | .and, false => return first
      | .or, true => return first
      | .and, true => right.eval setting (depth + 1)
      | .or, false => right.eval setting (depth + 1)
      | op, _ =>
          let second ← right.eval setting (depth + 1)
          Run.lift (Value.binary op first second) Option.none
termination_by structural e => e

def evalAll (setting : Setting) (depth : Nat) : List Expr → Run (List Value)
  | [] => pure []
  | e :: rest => do
      let value ← e.eval setting depth
      let values ← evalAll setting depth rest
      return value :: values
termination_by structural es => es

def evalEntries (setting : Setting) (depth : Nat) (before : Entries Value) :
    List (Expr × Expr) → Run (Entries Value)
  | [] => pure before
  | (key, value) :: rest => do
      match ← key.eval setting depth with
      | .string key =>
          let value ← value.eval setting depth
          evalEntries setting depth (before.insert key value) rest
      | other => Run.fail (Value.mismatch .stringMapKey other) none
termination_by structural entries => entries

def evalPieces (setting : Setting) (depth : Nat) (before : String) : List Piece → Run String
  | [] => pure before
  | piece :: rest => do
      let text ← piece.eval setting depth
      evalPieces setting depth (before ++ text) rest
termination_by structural pieces => pieces

def Piece.eval (setting : Setting) (depth : Nat) : Piece → Run String
  | .text value => pure value
  | .code e => do return (← e.eval setting depth).display
termination_by structural piece => piece

end

def iterate (name : String) (body : Run Unit) : List Value → Run Unit
  | [] => pure ()
  | item :: rest => do
      Run.set name item
      body
      iterate name body rest

mutual

/-- Does what the statement says, on the level of the list that holds it. -/
def Statement.exec (setting : Setting) (depth : Nat) : Statement → Run Unit
  | .assign name value _ => do
      Run.set name (← value.eval setting (depth + 1))
  | .expr value _ => do
      let _ ← value.eval setting (depth + 1)
  | .cond branches otherwise _ =>
      execBranches setting depth branches (match otherwise with
        | some body => setting.within (depth + 1) (execAll setting (depth + 1) body)
        | none => pure ())
  | .loop name source body _ => do
      let source ← source.eval setting (depth + 1)
      let items ← Run.lift source.iterate none
      iterate name (setting.within (depth + 1) (execAll setting (depth + 1) body)) items
termination_by structural statement => statement

def execBranches (setting : Setting) (depth : Nat) :
    List (Expr × List Statement) → Run Unit → Run Unit
  | [], otherwise => otherwise
  | (condition, body) :: rest, otherwise => do
      let value ← condition.eval setting (depth + 1)
      if value.truthy then setting.within (depth + 1) (execAll setting (depth + 1) body)
      else execBranches setting depth rest otherwise
termination_by structural branches => branches

def execAll (setting : Setting) (depth : Nat) : List Statement → Run Unit
  | [] => pure ()
  | statement :: rest => do
      Run.located statement.span (statement.exec setting depth)
      execAll setting depth rest
termination_by structural statements => statements

end

def Program.run (setting : Setting) (program : Program) : Run Unit :=
  setting.within 0 (execAll setting 0 program)

end LiteratePages.Code
