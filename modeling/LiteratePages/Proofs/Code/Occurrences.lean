import LiteratePages.Code.Program

/-!
What stands in code: its blocks and expressions, each on a level, the names that it reads and the
names that it gives values. The list of the statements of a program is on level 0. What a statement
holds is one level below the list that the statement stands in, and the parts of an expression are
one level below the whole.
-/
namespace LiteratePages.Code

inductive Occurrence where
  /-- A block or an expression. -/
  | node (level : Nat)
  | read (name : String)
  | write (name : String)
deriving Repr, DecidableEq

namespace Occurrence

def level? : Occurrence → Option Nat
  | .node level => some level
  | .read _ | .write _ => none

def name? : Occurrence → Option String
  | .read name | .write name => some name
  | .node _ => none

def written? : Occurrence → Option String
  | .write name => some name
  | .node _ | .read _ => none

end Occurrence

mutual

/-- What stands in an expression that is on `level`. -/
def Expr.occurrences (level : Nat) : Expr → List Occurrence
  | .string _ | .number _ | .boolean _ | .none => [.node level]
  | .format pieces => .node level :: occurrencesOfPieces (level + 1) pieces
  | .list items => .node level :: occurrencesOfAll (level + 1) items
  | .map entries => .node level :: occurrencesOfEntries (level + 1) entries
  | .variable name _ => [.node level, .read name]
  | .call callee arguments _ =>
      .node level :: (callee.occurrences (level + 1) ++ occurrencesOfAll (level + 1) arguments)
  | .index target position _ =>
      .node level :: (target.occurrences (level + 1) ++ position.occurrences (level + 1))
  | .unary _ operand => .node level :: operand.occurrences (level + 1)
  | .binary _ left right =>
      .node level :: (left.occurrences (level + 1) ++ right.occurrences (level + 1))
termination_by structural e => e

def occurrencesOfAll (level : Nat) : List Expr → List Occurrence
  | [] => []
  | e :: rest => e.occurrences level ++ occurrencesOfAll level rest
termination_by structural es => es

def occurrencesOfEntries (level : Nat) : List (Expr × Expr) → List Occurrence
  | [] => []
  | (key, value) :: rest =>
      key.occurrences level ++ (value.occurrences level ++ occurrencesOfEntries level rest)
termination_by structural entries => entries

def occurrencesOfPieces (level : Nat) : List Piece → List Occurrence
  | [] => []
  | piece :: rest => piece.occurrences level ++ occurrencesOfPieces level rest
termination_by structural pieces => pieces

def Piece.occurrences (level : Nat) : Piece → List Occurrence
  | .text _ => []
  | .code e => e.occurrences level
termination_by structural piece => piece

end

mutual

/-- What stands in a statement of a list that is on `level`. -/
def Statement.occurrences (level : Nat) : Statement → List Occurrence
  | .assign name value _ => .write name :: value.occurrences (level + 1)
  | .expr value _ => value.occurrences (level + 1)
  | .cond branches otherwise _ =>
      occurrencesOfBranches level branches ++ match otherwise with
        | some body => .node (level + 1) :: occurrencesOfBody (level + 1) body
        | none => []
  | .loop name source body _ =>
      .write name :: (source.occurrences (level + 1) ++
        .node (level + 1) :: occurrencesOfBody (level + 1) body)
termination_by structural statement => statement

def occurrencesOfBranches (level : Nat) : List (Expr × List Statement) → List Occurrence
  | [] => []
  | (condition, body) :: rest =>
      condition.occurrences (level + 1) ++
        (.node (level + 1) :: occurrencesOfBody (level + 1) body ++ occurrencesOfBranches level rest)
termination_by structural branches => branches

def occurrencesOfBody (level : Nat) : List Statement → List Occurrence
  | [] => []
  | statement :: rest => statement.occurrences level ++ occurrencesOfBody level rest
termination_by structural statements => statements

end

namespace Program

def occurrences (program : Program) : List Occurrence := .node 0 :: occurrencesOfBody 0 program

/-- The levels that blocks and expressions are on. -/
def levels (program : Program) : List Nat := program.occurrences.filterMap Occurrence.level?

/-- The names that are read or given values. -/
def names (program : Program) : List String := program.occurrences.filterMap Occurrence.name?

/-- The targets of assignments and the variables of loops. -/
def assigned (program : Program) : List String := program.occurrences.filterMap Occurrence.written?

end Program

/-- The levels go on in the code of a format string, and an `else` is on the level of the bodies
before it. -/
example : Program.occurrences [.cond [(.variable "a" ⟨3, 4⟩, [])]
    (some [.assign "b" (.format [.text "c", .code (.variable "d" ⟨22, 23⟩)]) ⟨14, 25⟩]) ⟨0, 27⟩] =
    [.node 0, .node 1, .read "a", .node 1, .node 1, .write "b", .node 2, .node 3, .read "d"] :=
  rfl

mutual

/-- An expression gives no name a value. -/
theorem Expr.write_notMem_occurrences (name : String) (level : Nat) :
    (e : Expr) → .write name ∉ e.occurrences level
  | .string _ | .number _ | .boolean _ | .none | .variable .. => by simp [Expr.occurrences]
  | .format pieces => by
      have inside := write_notMem_occurrencesOfPieces name (level + 1) pieces
      simp [Expr.occurrences, inside]
  | .list items => by
      have inside := write_notMem_occurrencesOfAll name (level + 1) items
      simp [Expr.occurrences, inside]
  | .map entries => by
      have inside := write_notMem_occurrencesOfEntries name (level + 1) entries
      simp [Expr.occurrences, inside]
  | .call callee arguments _ => by
      have function := callee.write_notMem_occurrences name (level + 1)
      have inside := write_notMem_occurrencesOfAll name (level + 1) arguments
      simp [Expr.occurrences, function, inside]
  | .unary _ operand => by
      have inside := operand.write_notMem_occurrences name (level + 1)
      simp [Expr.occurrences, inside]
  | .index first second _ | .binary _ first second => by
      have left := first.write_notMem_occurrences name (level + 1)
      have right := second.write_notMem_occurrences name (level + 1)
      simp [Expr.occurrences, left, right]
termination_by structural e => e

theorem write_notMem_occurrencesOfAll (name : String) (level : Nat) :
    (es : List Expr) → .write name ∉ occurrencesOfAll level es
  | [] => by simp [occurrencesOfAll]
  | e :: rest => by
      have first := e.write_notMem_occurrences name level
      have later := write_notMem_occurrencesOfAll name level rest
      simp [occurrencesOfAll, first, later]
termination_by structural es => es

theorem write_notMem_occurrencesOfEntries (name : String) (level : Nat) :
    (entries : List (Expr × Expr)) → .write name ∉ occurrencesOfEntries level entries
  | [] => by simp [occurrencesOfEntries]
  | (key, value) :: rest => by
      have first := key.write_notMem_occurrences name level
      have second := value.write_notMem_occurrences name level
      have later := write_notMem_occurrencesOfEntries name level rest
      simp [occurrencesOfEntries, first, second, later]
termination_by structural entries => entries

theorem write_notMem_occurrencesOfPieces (name : String) (level : Nat) :
    (pieces : List Piece) → .write name ∉ occurrencesOfPieces level pieces
  | [] => by simp [occurrencesOfPieces]
  | piece :: rest => by
      have first := piece.write_notMem_occurrences name level
      have later := write_notMem_occurrencesOfPieces name level rest
      simp [occurrencesOfPieces, first, later]
termination_by structural pieces => pieces

theorem Piece.write_notMem_occurrences (name : String) (level : Nat) :
    (piece : Piece) → .write name ∉ piece.occurrences level
  | .text _ => by simp [Piece.occurrences]
  | .code e => e.write_notMem_occurrences name level
termination_by structural piece => piece

end

end LiteratePages.Code
