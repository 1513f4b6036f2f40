import LiteratePages.Run.Evaluation

/-!
Code that runs before an onlooker. Every value that an expression comes to is handed to the onlooker
before it is used, and the onlooker may act on it or end the run.
-/
namespace LiteratePages

theorem Run.bind_pure {α : Type} (action : Run α) : action >>= Run.pure = action := by
  funext machine
  change Run.bind action Run.pure machine = _
  unfold Run.bind
  split
  · rename_i ran
    exact ran.symm
  · rename_i ran
    exact ran.symm

namespace Code

section

variable (see : Value → Run Value) (setting : Setting)

mutual

/-- As `Expr.eval`, with every value seen. -/
def Expr.evalSeen (depth : Nat) : Expr → Run Value
  | .string value => setting.within depth (pure (.string value)) >>= see
  | .number value => setting.within depth (pure (.number value)) >>= see
  | .boolean value => setting.within depth (pure (.boolean value)) >>= see
  | .none => setting.within depth (pure .none) >>= see
  | .format pieces =>
      setting.within depth (do
        return .string (← evalPiecesSeen (depth + 1) "" pieces)) >>= see
  | .list items =>
      setting.within depth (do
        return .list (← evalAllSeen (depth + 1) items)) >>= see
  | .map entries =>
      setting.within depth (do
        return .map (← evalEntriesSeen (depth + 1) [] entries)) >>= see
  | .variable name span => setting.within depth (Run.lookup name span) >>= see
  | .call callee arguments span =>
      setting.within depth (do
        let function ← callee.evalSeen (depth + 1)
        let arguments ← evalAllSeen (depth + 1) arguments
        call setting function arguments span) >>= see
  | .index target position span =>
      setting.within depth (do
        let target ← target.evalSeen (depth + 1)
        let position ← position.evalSeen (depth + 1)
        Run.lift (target.atIndex position) (some span)) >>= see
  | .unary op operand =>
      setting.within depth (do
        let operand ← operand.evalSeen (depth + 1)
        Run.lift (operand.unary op) Option.none) >>= see
  | .binary op left right =>
      setting.within depth (do
        let first ← left.evalSeen (depth + 1)
        match op, first.truthy with
        | .and, false => return first
        | .or, true => return first
        | .and, true => right.evalSeen (depth + 1)
        | .or, false => right.evalSeen (depth + 1)
        | op, _ =>
            let second ← right.evalSeen (depth + 1)
            Run.lift (Value.binary op first second) Option.none) >>= see
termination_by structural e => e

def evalAllSeen (depth : Nat) : List Expr → Run (List Value)
  | [] => pure []
  | e :: rest => do
      let value ← e.evalSeen depth
      let values ← evalAllSeen depth rest
      return value :: values
termination_by structural es => es

def evalEntriesSeen (depth : Nat) (before : Entries Value) :
    List (Expr × Expr) → Run (Entries Value)
  | [] => pure before
  | (key, value) :: rest => do
      match ← key.evalSeen depth with
      | .string key =>
          let value ← value.evalSeen depth
          evalEntriesSeen depth (before.insert key value) rest
      | other => Run.fail (Value.mismatch .stringMapKey other) none
termination_by structural entries => entries

def evalPiecesSeen (depth : Nat) (before : String) : List Piece → Run String
  | [] => pure before
  | piece :: rest => do
      let text ← piece.evalSeen depth
      evalPiecesSeen depth (before ++ text) rest
termination_by structural pieces => pieces

def Piece.evalSeen (depth : Nat) : Piece → Run String
  | .text value => pure value
  | .code e => do return (← e.evalSeen depth).display
termination_by structural piece => piece

end

mutual

def Statement.execSeen (depth : Nat) : Statement → Run Unit
  | .assign name value _ => do
      Run.set name (← value.evalSeen see setting (depth + 1))
  | .expr value _ => do
      let _ ← value.evalSeen see setting (depth + 1)
  | .cond branches otherwise _ =>
      execBranchesSeen depth branches (match otherwise with
        | some body => setting.within (depth + 1) (execAllSeen (depth + 1) body)
        | none => pure ())
  | .loop name source body _ => do
      let source ← source.evalSeen see setting (depth + 1)
      let items ← Run.lift source.iterate none
      iterate name (setting.within (depth + 1) (execAllSeen (depth + 1) body)) items
termination_by structural statement => statement

def execBranchesSeen (depth : Nat) : List (Expr × List Statement) → Run Unit → Run Unit
  | [], otherwise => otherwise
  | (condition, body) :: rest, otherwise => do
      let value ← condition.evalSeen see setting (depth + 1)
      if value.truthy then setting.within (depth + 1) (execAllSeen (depth + 1) body)
      else execBranchesSeen depth rest otherwise
termination_by structural branches => branches

def execAllSeen (depth : Nat) : List Statement → Run Unit
  | [] => pure ()
  | statement :: rest => do
      Run.located statement.span (statement.execSeen depth)
      execAllSeen depth rest
termination_by structural statements => statements

end

def Program.runSeen (program : Program) : Run Unit :=
  setting.within 0 (execAllSeen see setting 0 program)

end

section

variable (setting : Setting)

mutual

theorem Expr.evalSeen_pure (depth : Nat) : (e : Expr) →
    e.evalSeen Run.pure setting depth = e.eval setting depth
  | .string _ | .number _ | .boolean _ | .none | .variable .. => Run.bind_pure _
  | .format pieces => by
      rw [Expr.evalSeen, Expr.eval, Run.bind_pure, evalPiecesSeen_pure (depth + 1) "" pieces]
  | .list items => by
      rw [Expr.evalSeen, Expr.eval, Run.bind_pure, evalAllSeen_pure (depth + 1) items]
  | .map entries => by
      rw [Expr.evalSeen, Expr.eval, Run.bind_pure, evalEntriesSeen_pure (depth + 1) [] entries]
  | .call callee arguments span => by
      rw [Expr.evalSeen, Expr.eval, Run.bind_pure, callee.evalSeen_pure (depth + 1),
        evalAllSeen_pure (depth + 1) arguments]
  | .index target position span => by
      rw [Expr.evalSeen, Expr.eval, Run.bind_pure, target.evalSeen_pure (depth + 1),
        position.evalSeen_pure (depth + 1)]
  | .unary op operand => by
      rw [Expr.evalSeen, Expr.eval, Run.bind_pure, operand.evalSeen_pure (depth + 1)]
  | .binary op left right => by
      rw [Expr.evalSeen, Run.bind_pure, left.evalSeen_pure (depth + 1),
        right.evalSeen_pure (depth + 1)]
      rfl
termination_by structural e => e

theorem evalAllSeen_pure (depth : Nat) : (es : List Expr) →
    evalAllSeen Run.pure setting depth es = evalAll setting depth es
  | [] => rfl
  | e :: rest => by
      rw [evalAllSeen, evalAll, e.evalSeen_pure depth, evalAllSeen_pure depth rest]
termination_by structural es => es

theorem evalEntriesSeen_pure (depth : Nat) (before : Entries Value) :
    (entries : List (Expr × Expr)) →
      evalEntriesSeen Run.pure setting depth before entries =
        evalEntries setting depth before entries
  | [] => rfl
  | (key, value) :: rest => by
      have later := fun before => evalEntriesSeen_pure depth before rest
      rw [evalEntriesSeen, key.evalSeen_pure depth, value.evalSeen_pure depth]
      simp only [later]
      rfl
termination_by structural entries => entries

theorem evalPiecesSeen_pure (depth : Nat) (before : String) : (pieces : List Piece) →
    evalPiecesSeen Run.pure setting depth before pieces = evalPieces setting depth before pieces
  | [] => rfl
  | piece :: rest => by
      have later := fun before => evalPiecesSeen_pure depth before rest
      rw [evalPiecesSeen, evalPieces, piece.evalSeen_pure depth]
      simp only [later]
termination_by structural pieces => pieces

theorem Piece.evalSeen_pure (depth : Nat) : (piece : Piece) →
    piece.evalSeen Run.pure setting depth = piece.eval setting depth
  | .text _ => rfl
  | .code e => by
      rw [Piece.evalSeen, Piece.eval, e.evalSeen_pure depth]
termination_by structural piece => piece

end

mutual

theorem Statement.execSeen_pure (depth : Nat) : (statement : Statement) →
    statement.execSeen Run.pure setting depth = statement.exec setting depth
  | .assign name value _ => by
      rw [Statement.execSeen, Statement.exec, value.evalSeen_pure]
  | .expr value _ => by
      rw [Statement.execSeen, Statement.exec, value.evalSeen_pure]
  | .cond branches none _ => execBranchesSeen_pure depth branches _
  | .cond branches (some body) _ => by
      rw [Statement.execSeen, Statement.exec, execBranchesSeen_pure depth branches]
      simp only [execAllSeen_pure (depth + 1) body]
  | .loop name source body _ => by
      rw [Statement.execSeen, Statement.exec, source.evalSeen_pure,
        execAllSeen_pure (depth + 1) body]
termination_by structural statement => statement

theorem execBranchesSeen_pure (depth : Nat) : (branches : List (Expr × List Statement)) →
    (otherwise : Run Unit) →
      execBranchesSeen Run.pure setting depth branches otherwise =
        execBranches setting depth branches otherwise
  | [], _ => rfl
  | (condition, body) :: rest, otherwise => by
      rw [execBranchesSeen, execBranches, condition.evalSeen_pure,
        execAllSeen_pure (depth + 1) body, execBranchesSeen_pure depth rest otherwise]
termination_by structural branches => branches

theorem execAllSeen_pure (depth : Nat) : (statements : List Statement) →
    execAllSeen Run.pure setting depth statements = execAll setting depth statements
  | [] => rfl
  | statement :: rest => by
      rw [execAllSeen, execAll, statement.execSeen_pure depth, execAllSeen_pure depth rest]
termination_by structural statements => statements

end

/-- An onlooker that does nothing makes no difference to any program. -/
theorem Program.runSeen_pure (program : Program) :
    program.runSeen Run.pure setting = program.run setting := by
  rw [Program.runSeen, Program.run, execAllSeen_pure]

end

end Code

end LiteratePages
