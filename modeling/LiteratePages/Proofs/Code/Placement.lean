import LiteratePages.Proofs.Code.Spans

namespace LiteratePages.Code

/-- The span holds a piece of the text that lies inside all of `outers`. -/
structure Span.Nested (text : String) (outers : List Span) (span : Span) : Prop where
  forward : span.start < span.stop
  sliceable : span.Sliceable text
  inside : ∀ outer ∈ outers, span.Inside outer

mutual

/-- The expression stands in the text, inside of `outers`: the statements, calls and indexes around
it. -/
def Expr.Placed (text : String) (outers : List Span) : Expr → Prop
  | .string _ | .number _ | .boolean _ | .none => True
  | .format pieces => PlacedPieces text outers pieces
  | .list items => PlacedAll text outers items
  | .map entries => PlacedEntries text outers entries
  | .variable name span =>
      span.Nested text outers ∧ bytesBetween text span.start span.stop = name
  | .call callee arguments span =>
      span.Nested text outers ∧ callee.Placed text (span :: outers) ∧
        PlacedAll text (span :: outers) arguments
  | .index target position span =>
      span.Nested text outers ∧ target.Placed text (span :: outers) ∧
        position.Placed text (span :: outers)
  | .unary _ operand => operand.Placed text outers
  | .binary _ left right => left.Placed text outers ∧ right.Placed text outers
termination_by structural e => e

def PlacedAll (text : String) (outers : List Span) : List Expr → Prop
  | [] => True
  | e :: rest => e.Placed text outers ∧ PlacedAll text outers rest
termination_by structural es => es

def PlacedEntries (text : String) (outers : List Span) : List (Expr × Expr) → Prop
  | [] => True
  | (key, value) :: rest =>
      key.Placed text outers ∧ value.Placed text outers ∧ PlacedEntries text outers rest
termination_by structural entries => entries

def PlacedPieces (text : String) (outers : List Span) : List Piece → Prop
  | [] => True
  | piece :: rest => piece.Placed text outers ∧ PlacedPieces text outers rest
termination_by structural pieces => pieces

def Piece.Placed (text : String) (outers : List Span) : Piece → Prop
  | .text _ => True
  | .code e => e.Placed text outers
termination_by structural piece => piece

end

mutual

def Statement.Placed (text : String) (outers : List Span) : Statement → Prop
  | .assign _ value span | .expr value span =>
      span.Nested text outers ∧ value.Placed text (span :: outers)
  | .cond branches otherwise span =>
      span.Nested text outers ∧ PlacedBranches text (span :: outers) branches ∧
        match otherwise with
        | some body => PlacedBody text (span :: outers) body
        | none => True
  | .loop _ source body span =>
      span.Nested text outers ∧ source.Placed text (span :: outers) ∧
        PlacedBody text (span :: outers) body
termination_by structural statement => statement

def PlacedBranches (text : String) (outers : List Span) : List (Expr × List Statement) → Prop
  | [] => True
  | (condition, body) :: rest =>
      condition.Placed text outers ∧ PlacedBody text outers body ∧ PlacedBranches text outers rest
termination_by structural branches => branches

/-- Each statement of a body ends before the later ones start. -/
def PlacedBody (text : String) (outers : List Span) : List Statement → Prop
  | [] => True
  | statement :: rest =>
      statement.Placed text outers ∧ (∀ later ∈ rest, statement.span.stop ≤ later.span.start) ∧
        PlacedBody text outers rest
termination_by structural statements => statements

end

/-- All the spans in a program are those of the text, with nothing around its statements. -/
def Program.Placed (text : String) (program : Program) : Prop := PlacedBody text [] program

variable {text : String} {outers others : List Span}

theorem Span.Inside.refl (span : Span) : span.Inside span := ⟨Nat.le_refl _, Nat.le_refl _⟩

/-- Each of `others` has one of `outers` inside it. -/
def Wider (outers others : List Span) : Prop :=
  ∀ other ∈ others, ∃ outer ∈ outers, outer.Inside other

theorem Wider.cons (wider : Wider outers others) (span : Span) :
    Wider (span :: outers) (span :: others) := by
  intro other member
  rcases List.mem_cons.mp member with rfl | member
  · exact ⟨other, List.mem_cons_self, .refl other⟩
  · obtain ⟨outer, within, inside⟩ := wider other member
    exact ⟨outer, List.mem_cons_of_mem _ within, inside⟩

theorem Span.Nested.mono {span : Span} (nested : span.Nested text outers)
    (wider : Wider outers others) : span.Nested text others := by
  refine ⟨nested.forward, nested.sliceable, fun other member => ?_⟩
  obtain ⟨outer, within, inside⟩ := wider other member
  exact (nested.inside outer within).trans inside

mutual

theorem Expr.placed_mono {outers others : List Span} (wider : Wider outers others) :
    (e : Expr) → e.Placed text outers → e.Placed text others
  | .string _, _ | .number _, _ | .boolean _, _ | .none, _ => trivial
  | .format pieces, placed => placedPieces_mono wider pieces placed
  | .list items, placed => placedAll_mono wider items placed
  | .map entries, placed => placedEntries_mono wider entries placed
  | .variable _ _, ⟨nested, named⟩ => ⟨nested.mono wider, named⟩
  | .call callee arguments span, ⟨nested, function, placed⟩ =>
      ⟨nested.mono wider, callee.placed_mono (wider.cons span) function,
        placedAll_mono (wider.cons span) arguments placed⟩
  | .index target position span, ⟨nested, whole, placed⟩ =>
      ⟨nested.mono wider, target.placed_mono (wider.cons span) whole,
        position.placed_mono (wider.cons span) placed⟩
  | .unary _ operand, placed => operand.placed_mono wider placed
  | .binary _ left right, ⟨first, second⟩ =>
      ⟨left.placed_mono wider first, right.placed_mono wider second⟩
termination_by structural e => e

theorem placedAll_mono {outers others : List Span} (wider : Wider outers others) :
    (es : List Expr) → PlacedAll text outers es → PlacedAll text others es
  | [], _ => trivial
  | e :: rest, ⟨first, later⟩ => ⟨e.placed_mono wider first, placedAll_mono wider rest later⟩
termination_by structural es => es

theorem placedEntries_mono {outers others : List Span} (wider : Wider outers others) :
    (entries : List (Expr × Expr)) → PlacedEntries text outers entries →
      PlacedEntries text others entries
  | [], _ => trivial
  | (key, value) :: rest, ⟨first, second, later⟩ =>
      ⟨key.placed_mono wider first, value.placed_mono wider second,
        placedEntries_mono wider rest later⟩
termination_by structural entries => entries

theorem placedPieces_mono {outers others : List Span} (wider : Wider outers others) :
    (pieces : List Piece) → PlacedPieces text outers pieces → PlacedPieces text others pieces
  | [], _ => trivial
  | piece :: rest, ⟨first, later⟩ =>
      ⟨piece.placed_mono wider first, placedPieces_mono wider rest later⟩
termination_by structural pieces => pieces

theorem Piece.placed_mono {outers others : List Span} (wider : Wider outers others) :
    (piece : Piece) → piece.Placed text outers → piece.Placed text others
  | .text _, _ => trivial
  | .code e, placed => e.placed_mono wider placed
termination_by structural piece => piece

end

mutual

theorem Statement.placed_mono {outers others : List Span} (wider : Wider outers others) :
    (statement : Statement) → statement.Placed text outers → statement.Placed text others
  | .assign _ value span, ⟨nested, placed⟩ | .expr value span, ⟨nested, placed⟩ =>
      ⟨nested.mono wider, value.placed_mono (wider.cons span) placed⟩
  | .cond branches none span, ⟨nested, placed, _⟩ =>
      ⟨nested.mono wider, placedBranches_mono (wider.cons span) branches placed, trivial⟩
  | .cond branches (some body) span, ⟨nested, placed, otherwise⟩ =>
      ⟨nested.mono wider, placedBranches_mono (wider.cons span) branches placed,
        placedBody_mono (wider.cons span) body otherwise⟩
  | .loop _ source body span, ⟨nested, items, placed⟩ =>
      ⟨nested.mono wider, source.placed_mono (wider.cons span) items,
        placedBody_mono (wider.cons span) body placed⟩
termination_by structural statement => statement

theorem placedBranches_mono {outers others : List Span} (wider : Wider outers others) :
    (branches : List (Expr × List Statement)) → PlacedBranches text outers branches →
      PlacedBranches text others branches
  | [], _ => trivial
  | (condition, body) :: rest, ⟨first, placed, later⟩ =>
      ⟨condition.placed_mono wider first, placedBody_mono wider body placed,
        placedBranches_mono wider rest later⟩
termination_by structural branches => branches

theorem placedBody_mono {outers others : List Span} (wider : Wider outers others) :
    (statements : List Statement) → PlacedBody text outers statements →
      PlacedBody text others statements
  | [], _ => trivial
  | statement :: rest, ⟨first, ordered, later⟩ =>
      ⟨statement.placed_mono wider first, ordered, placedBody_mono wider rest later⟩
termination_by structural statements => statements

end

theorem placedAll_iff {es : List Expr} :
    PlacedAll text outers es ↔ ∀ e ∈ es, e.Placed text outers := by
  induction es with
  | nil => simp [PlacedAll]
  | cons e rest ih => simp [PlacedAll, ih]

theorem placedPieces_iff {pieces : List Piece} :
    PlacedPieces text outers pieces ↔ ∀ piece ∈ pieces, piece.Placed text outers := by
  induction pieces with
  | nil => simp [PlacedPieces]
  | cons piece rest ih => simp [PlacedPieces, ih]

def entryParts (entries : List (Expr × Expr)) : List Expr :=
  entries.flatMap fun entry => [entry.1, entry.2]

theorem placedEntries_iff {entries : List (Expr × Expr)} :
    PlacedEntries text outers entries ↔ ∀ e ∈ entryParts entries, e.Placed text outers := by
  induction entries with
  | nil => simp [PlacedEntries, entryParts]
  | cons entry rest ih => simp_all [PlacedEntries, entryParts]

theorem placedBody_concat {statements : List Statement} {last : Statement}
    (placed : PlacedBody text outers statements) (final : last.Placed text outers)
    (ordered : ∀ statement ∈ statements, statement.span.stop ≤ last.span.start) :
    PlacedBody text outers (statements ++ [last]) := by
  induction statements with
  | nil => exact ⟨final, nofun, trivial⟩
  | cons statement rest ih =>
      obtain ⟨first, before, later⟩ := placed
      refine ⟨first, fun other member => ?_, ih later fun other member =>
        ordered other (List.mem_cons_of_mem _ member)⟩
      rcases List.mem_append.mp member with inside | final
      · exact before other inside
      · rw [List.mem_singleton.mp final]
        exact ordered statement List.mem_cons_self

theorem placedBranches_concat {branches : List (Expr × List Statement)} {condition : Expr}
    {body : List Statement} (placed : PlacedBranches text outers branches)
    (head : condition.Placed text outers) (block : PlacedBody text outers body) :
    PlacedBranches text outers (branches ++ [(condition, body)]) := by
  induction branches with
  | nil => exact ⟨head, block, trivial⟩
  | cons branch rest ih =>
      obtain ⟨first, inside, later⟩ := placed
      exact ⟨first, inside, ih later⟩

end LiteratePages.Code
