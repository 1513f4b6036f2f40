import LiteratePages.Code.Syntax
import LiteratePages.Proofs.Text.Bytes

namespace LiteratePages.Code

/-- Both ends are in order, in the text and between two characters of it. -/
structure Span.Sliceable (text : String) (span : Span) : Prop where
  ordered : span.start ≤ span.stop
  within : span.stop ≤ text.utf8ByteSize
  start : String.Pos.Raw.IsValid text ⟨span.start⟩
  stop : String.Pos.Raw.IsValid text ⟨span.stop⟩

def Span.Inside (inner outer : Span) : Prop :=
  outer.start ≤ inner.start ∧ inner.stop ≤ outer.stop

theorem Span.Inside.trans {first second third : Span} (inner : first.Inside second)
    (outer : second.Inside third) : first.Inside third :=
  ⟨Nat.le_trans outer.1 inner.1, Nat.le_trans inner.2 outer.2⟩

/-- Between the ends of the span stands `piece`. -/
def Span.Cuts (source : List Char) (span : Span) (piece : List Char) : Prop :=
  ∃ before after, source = before ++ piece ++ after ∧ span.start = Text.byteLength before ∧
    span.stop = Text.byteLength before + Text.byteLength piece

theorem isValid_of_append {text : String} {before after : List Char}
    (parts : text.toList = before ++ after) :
    String.Pos.Raw.IsValid text ⟨Text.byteLength before⟩ := by
  refine String.Pos.Raw.isValid_iff_exists_append.mpr
    ⟨String.ofList before, String.ofList after, ?_, ?_⟩
  · rw [← String.ofList_append, ← parts, String.ofList_toList]
  · rw [String.rawEndPos, utf8ByteSize_ofList]

namespace Span.Cuts

variable {source piece : List Char} {span : Span}

theorem lt (cuts : span.Cuts source piece) (some : piece ≠ []) : span.start < span.stop := by
  obtain ⟨before, after, _, start, stop⟩ := cuts
  have := Text.byteLength_pos some
  omega

theorem sliceable {text : String} (cuts : span.Cuts text.toList piece) : span.Sliceable text := by
  obtain ⟨before, after, parts, start, stop⟩ := cuts
  have size : text.utf8ByteSize = Text.byteLength (before ++ piece ++ after) := by
    rw [← parts, ← utf8ByteSize_ofList, String.ofList_toList]
  have stop' : span.stop = Text.byteLength (before ++ piece) := by
    rw [stop, Text.byteLength_append]
  refine ⟨by omega, ?_, ?_, ?_⟩
  · rw [size, stop', Text.byteLength_append (before ++ piece)]
    exact Nat.le_add_right _ _
  · rw [List.append_assoc] at parts
    rw [start]
    exact isValid_of_append parts
  · rw [stop']
    exact isValid_of_append parts

theorem bytesBetween_eq {text : String} (cuts : span.Cuts text.toList piece) :
    bytesBetween text span.start span.stop = String.ofList piece := by
  obtain ⟨before, after, parts, start, stop⟩ := cuts
  have whole : text = String.ofList (before ++ piece ++ after) := by
    rw [← parts, String.ofList_toList]
  rw [start, stop, whole]
  exact bytesBetween_ofList before piece after

theorem stop_le (cuts : span.Cuts source piece) : span.stop ≤ Text.byteLength source := by
  obtain ⟨before, after, rfl, _, stop⟩ := cuts
  rw [stop, Text.byteLength_append, Text.byteLength_append]
  exact Nat.le_add_right ..

/-- Nothing stands where a piece ends. -/
theorem stop (cuts : span.Cuts source piece) : Span.Cuts source ⟨span.stop, span.stop⟩ [] := by
  obtain ⟨before, after, parts, _, stop⟩ := cuts
  refine ⟨before ++ piece, after, by simp [parts], ?_, ?_⟩
  · rw [stop, Text.byteLength_append]
  · rw [stop, Text.byteLength_append, Text.byteLength_nil, Nat.add_zero]

/-- A piece of a piece is a piece of the whole text. -/
theorem inner {part : List Char} {first last : Nat} (outer : span.Cuts source piece)
    (cuts : Span.Cuts piece ⟨first, last⟩ part) :
    Span.Cuts source ⟨span.start + first, span.start + last⟩ part := by
  obtain ⟨before, after, rfl, start, _⟩ := outer
  obtain ⟨left, right, rfl, opened, closed⟩ := cuts
  dsimp only at opened closed
  subst opened closed
  refine ⟨before ++ left, right ++ after, by simp, ?_, ?_⟩
  · simp [start]
  · simp [start, Nat.add_assoc]

end Span.Cuts

end LiteratePages.Code
