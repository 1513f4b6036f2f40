import LiteratePages.Code.Token

/-!
Code whose places are moved. Text that stands elsewhere in a file has the same tokens and the same
statements, and `move` says where each of their places goes.
-/
namespace LiteratePages.Code

def Span.relocate (move : Nat → Nat) (span : Span) : Span := ⟨move span.start, move span.stop⟩

mutual

def Expr.relocate (move : Nat → Nat) : Expr → Expr
  | .string value => .string value
  | .number value => .number value
  | .boolean value => .boolean value
  | .none => .none
  | .format pieces => .format (relocatePieces move pieces)
  | .list items => .list (relocateAll move items)
  | .map entries => .map (relocateEntries move entries)
  | .variable name span => .variable name (span.relocate move)
  | .call callee arguments span =>
      .call (callee.relocate move) (relocateAll move arguments) (span.relocate move)
  | .index target position span =>
      .index (target.relocate move) (position.relocate move) (span.relocate move)
  | .unary op operand => .unary op (operand.relocate move)
  | .binary op left right => .binary op (left.relocate move) (right.relocate move)
termination_by structural e => e

def relocateAll (move : Nat → Nat) : List Expr → List Expr
  | [] => []
  | e :: rest => e.relocate move :: relocateAll move rest
termination_by structural es => es

def relocateEntries (move : Nat → Nat) : List (Expr × Expr) → List (Expr × Expr)
  | [] => []
  | (key, value) :: rest => (key.relocate move, value.relocate move) :: relocateEntries move rest
termination_by structural entries => entries

def relocatePieces (move : Nat → Nat) : List Piece → List Piece
  | [] => []
  | piece :: rest => piece.relocate move :: relocatePieces move rest
termination_by structural pieces => pieces

def Piece.relocate (move : Nat → Nat) : Piece → Piece
  | .text value => .text value
  | .code e => .code (e.relocate move)
termination_by structural piece => piece

end

mutual

def Statement.relocate (move : Nat → Nat) : Statement → Statement
  | .assign name value span => .assign name (value.relocate move) (span.relocate move)
  | .expr value span => .expr (value.relocate move) (span.relocate move)
  | .cond branches otherwise span =>
      .cond (relocateBranches move branches)
        (match otherwise with
          | some body => some (relocateBody move body)
          | none => none)
        (span.relocate move)
  | .loop name source body span =>
      .loop name (source.relocate move) (relocateBody move body) (span.relocate move)
termination_by structural statement => statement

def relocateBranches (move : Nat → Nat) :
    List (Expr × List Statement) → List (Expr × List Statement)
  | [] => []
  | (condition, body) :: rest =>
      (condition.relocate move, relocateBody move body) :: relocateBranches move rest
termination_by structural branches => branches

def relocateBody (move : Nat → Nat) : List Statement → List Statement
  | [] => []
  | statement :: rest => statement.relocate move :: relocateBody move rest
termination_by structural statements => statements

end

def Program.relocate (move : Nat → Nat) (program : Program) : Program := relocateBody move program

def Token.relocate (move : Nat → Nat) : Token → Token
  | .format body start => .format body (move start)
  | token => token

def Located.relocate (move : Nat → Nat) (located : Located) : Located :=
  ⟨located.token.relocate move, located.span.relocate move⟩

variable {move : Nat → Nat}

theorem Located.relocate_relocate (first second : Nat → Nat) (next : Located) :
    (next.relocate first).relocate second = next.relocate (second ∘ first) := by
  obtain ⟨token, span⟩ := next
  cases token <;> rfl

@[simp] theorem relocateAll_eq_map (es : List Expr) :
    relocateAll move es = es.map (Expr.relocate move) := by
  induction es with
  | nil => rfl
  | cons e rest ih => rw [relocateAll, ih, List.map_cons]

@[simp] theorem relocateEntries_eq_map (entries : List (Expr × Expr)) :
    relocateEntries move entries =
      entries.map fun entry => (entry.1.relocate move, entry.2.relocate move) := by
  induction entries with
  | nil => rfl
  | cons entry rest ih => rw [relocateEntries, ih, List.map_cons]

@[simp] theorem relocatePieces_eq_map (pieces : List Piece) :
    relocatePieces move pieces = pieces.map (Piece.relocate move) := by
  induction pieces with
  | nil => rfl
  | cons piece rest ih => rw [relocatePieces, ih, List.map_cons]

@[simp] theorem relocateBody_eq_map (statements : List Statement) :
    relocateBody move statements = statements.map (Statement.relocate move) := by
  induction statements with
  | nil => rfl
  | cons statement rest ih => rw [relocateBody, ih, List.map_cons]

@[simp] theorem relocateBranches_eq_map (branches : List (Expr × List Statement)) :
    relocateBranches move branches =
      branches.map fun branch =>
        (branch.1.relocate move, branch.2.map (Statement.relocate move)) := by
  induction branches with
  | nil => rfl
  | cons branch rest ih => rw [relocateBranches, ih, List.map_cons, relocateBody_eq_map]

@[simp] theorem Statement.span_relocate (statement : Statement) :
    (statement.relocate move).span = statement.span.relocate move := by
  cases statement <;> rfl

mutual

theorem Expr.relocate_id : (e : Expr) → e.relocate id = e
  | .string _ | .number _ | .boolean _ | .none | .variable .. => rfl
  | .format pieces => by rw [Expr.relocate, relocatePieces_id pieces]
  | .list items => by rw [Expr.relocate, relocateAll_id items]
  | .map entries => by rw [Expr.relocate, relocateEntries_id entries]
  | .call callee arguments _ => by
      rw [Expr.relocate, callee.relocate_id, relocateAll_id arguments]
      rfl
  | .index target position _ => by
      rw [Expr.relocate, target.relocate_id, position.relocate_id]
      rfl
  | .unary _ operand => by rw [Expr.relocate, operand.relocate_id]
  | .binary _ left right => by rw [Expr.relocate, left.relocate_id, right.relocate_id]
termination_by structural e => e

theorem relocateAll_id : (es : List Expr) → relocateAll id es = es
  | [] => rfl
  | e :: rest => by rw [relocateAll, e.relocate_id, relocateAll_id rest]
termination_by structural es => es

theorem relocateEntries_id : (entries : List (Expr × Expr)) → relocateEntries id entries = entries
  | [] => rfl
  | (key, value) :: rest => by
      rw [relocateEntries, key.relocate_id, value.relocate_id, relocateEntries_id rest]
termination_by structural entries => entries

theorem relocatePieces_id : (pieces : List Piece) → relocatePieces id pieces = pieces
  | [] => rfl
  | piece :: rest => by rw [relocatePieces, piece.relocate_id, relocatePieces_id rest]
termination_by structural pieces => pieces

theorem Piece.relocate_id : (piece : Piece) → piece.relocate id = piece
  | .text _ => rfl
  | .code e => by rw [Piece.relocate, e.relocate_id]
termination_by structural piece => piece

end

mutual

theorem Statement.relocate_id : (statement : Statement) → statement.relocate id = statement
  | .assign _ value _ => by
      rw [Statement.relocate, value.relocate_id]
      rfl
  | .expr value _ => by
      rw [Statement.relocate, value.relocate_id]
      rfl
  | .cond branches none _ => by
      rw [Statement.relocate, relocateBranches_id branches]
      rfl
  | .cond branches (some body) _ => by
      rw [Statement.relocate, relocateBranches_id branches, relocateBody_id body]
      rfl
  | .loop _ source body _ => by
      rw [Statement.relocate, source.relocate_id, relocateBody_id body]
      rfl
termination_by structural statement => statement

theorem relocateBranches_id :
    (branches : List (Expr × List Statement)) → relocateBranches id branches = branches
  | [] => rfl
  | (condition, body) :: rest => by
      rw [relocateBranches, condition.relocate_id, relocateBody_id body, relocateBranches_id rest]
termination_by structural branches => branches

theorem relocateBody_id : (body : List Statement) → relocateBody id body = body
  | [] => rfl
  | statement :: rest => by rw [relocateBody, statement.relocate_id, relocateBody_id rest]
termination_by structural body => body

end

theorem Located.relocate_id (next : Located) : next.relocate id = next := by
  obtain ⟨token, span⟩ := next
  cases token <;> rfl

theorem Program.relocate_id (program : Program) : program.relocate id = program :=
  relocateBody_id program

end LiteratePages.Code
