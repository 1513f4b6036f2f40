import LiteratePages.Run.Evaluation

/-!
Code over any kind of computation. Running it takes a few actions and nothing else, so that it can
be run with other effects than those of a plain run; what holds between the actions of both then
holds between the runs of all programs.
-/
namespace LiteratePages.Code

/-- What a computation must offer for code to run in it. -/
structure Actions (m : Type → Type) where
  fail : {α : Type} → Fault → Option Span → m α
  located : Span → m Unit → m Unit
  set : String → Value → m Unit
  print : String → m Unit
  lookup : String → Span → m Value
  callHost : String → Nat → List Value → Span → m Value
  within : {α : Type} → Nat → m α → m α

section

variable {m : Type → Type} [Monad m] (actions : Actions m)

def Actions.lift {α : Type} (result : Except Fault α) (span : Option Span) : m α :=
  match result with
  | .ok value => pure value
  | .error fault => actions.fail fault span

def Actions.call (callee : Value) (arguments : List Value) (span : Span) : m Value :=
  match callee with
  | .function ⟨.builtin builtin, _⟩ => do
      actions.print (builtin.printed arguments)
      actions.lift (builtin.apply arguments) (some span)
  | .function ⟨.host name, identity⟩ => actions.callHost name identity arguments span
  | other => actions.fail (.notCallable other.typeName) (some span)

mutual

def Expr.evalIn (depth : Nat) : Expr → m Value
  | .string value => actions.within depth (pure (.string value))
  | .number value => actions.within depth (pure (.number value))
  | .boolean value => actions.within depth (pure (.boolean value))
  | .none => actions.within depth (pure .none)
  | .format pieces => actions.within depth do
      return .string (← evalPiecesIn (depth + 1) "" pieces)
  | .list items => actions.within depth do
      return .list (← evalAllIn (depth + 1) items)
  | .map entries => actions.within depth do
      return .map (← evalEntriesIn (depth + 1) [] entries)
  | .variable name span => actions.within depth (actions.lookup name span)
  | .call callee arguments span => actions.within depth do
      let function ← callee.evalIn (depth + 1)
      let arguments ← evalAllIn (depth + 1) arguments
      actions.call function arguments span
  | .index target position span => actions.within depth do
      let target ← target.evalIn (depth + 1)
      let position ← position.evalIn (depth + 1)
      actions.lift (target.atIndex position) (some span)
  | .unary op operand => actions.within depth do
      let operand ← operand.evalIn (depth + 1)
      actions.lift (operand.unary op) Option.none
  | .binary op left right => actions.within depth do
      let first ← left.evalIn (depth + 1)
      match op, first.truthy with
      | .and, false => return first
      | .or, true => return first
      | .and, true => right.evalIn (depth + 1)
      | .or, false => right.evalIn (depth + 1)
      | op, _ =>
          let second ← right.evalIn (depth + 1)
          actions.lift (Value.binary op first second) Option.none
termination_by structural e => e

def evalAllIn (depth : Nat) : List Expr → m (List Value)
  | [] => pure []
  | e :: rest => do
      let value ← e.evalIn depth
      let values ← evalAllIn depth rest
      return value :: values
termination_by structural es => es

def evalEntriesIn (depth : Nat) (before : Entries Value) :
    List (Expr × Expr) → m (Entries Value)
  | [] => pure before
  | (key, value) :: rest => do
      match ← key.evalIn depth with
      | .string key =>
          let value ← value.evalIn depth
          evalEntriesIn depth (before.insert key value) rest
      | other => actions.fail (Value.mismatch .stringMapKey other) none
termination_by structural entries => entries

def evalPiecesIn (depth : Nat) (before : String) : List Piece → m String
  | [] => pure before
  | piece :: rest => do
      let text ← piece.evalIn depth
      evalPiecesIn depth (before ++ text) rest
termination_by structural pieces => pieces

def Piece.evalIn (depth : Nat) : Piece → m String
  | .text value => pure value
  | .code e => do return (← e.evalIn depth).display
termination_by structural piece => piece

end

def iterateIn (name : String) (body : m Unit) : List Value → m Unit
  | [] => pure ()
  | item :: rest => do
      actions.set name item
      body
      iterateIn name body rest

mutual

def Statement.execIn (depth : Nat) : Statement → m Unit
  | .assign name value _ => do
      actions.set name (← value.evalIn actions (depth + 1))
  | .expr value _ => do
      let _ ← value.evalIn actions (depth + 1)
  | .cond branches otherwise _ =>
      execBranchesIn depth branches (match otherwise with
        | some body => actions.within (depth + 1) (execAllIn (depth + 1) body)
        | none => pure ())
  | .loop name source body _ => do
      let source ← source.evalIn actions (depth + 1)
      let items ← actions.lift source.iterate none
      iterateIn actions name (actions.within (depth + 1) (execAllIn (depth + 1) body)) items
termination_by structural statement => statement

def execBranchesIn (depth : Nat) : List (Expr × List Statement) → m Unit → m Unit
  | [], otherwise => otherwise
  | (condition, body) :: rest, otherwise => do
      let value ← condition.evalIn actions (depth + 1)
      if value.truthy then actions.within (depth + 1) (execAllIn (depth + 1) body)
      else execBranchesIn depth rest otherwise
termination_by structural branches => branches

def execAllIn (depth : Nat) : List Statement → m Unit
  | [] => pure ()
  | statement :: rest => do
      actions.located statement.span (statement.execIn depth)
      execAllIn depth rest
termination_by structural statements => statements

end

def Program.runIn (program : Program) : m Unit := actions.within 0 (execAllIn actions 0 program)

end

/-- The actions of a plain run. -/
def Setting.actions (setting : Setting) : Actions Run where
  fail := Run.fail
  located := Run.located
  set := Run.set
  print := Run.print
  lookup := Run.lookup
  callHost := Run.callHost setting.host
  within := setting.within

end LiteratePages.Code
