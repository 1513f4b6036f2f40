import LiteratePages.Text.Bytes
import Mathlib.Data.String.Basic

namespace LiteratePages

theorem utf8Len_eq_byteLength (text : List Char) : String.utf8Len text = Text.byteLength text := by
  induction text with
  | nil => rfl
  | cons c rest ih => rw [String.utf8Len_cons, Text.byteLength_cons, ih, Nat.add_comm]

theorem bytesBetween_ofList (before piece after : List Char) :
    bytesBetween (String.ofList (before ++ piece ++ after)) (Text.byteLength before)
      (Text.byteLength before + Text.byteLength piece) = String.ofList piece := by
  rw [← utf8Len_eq_byteLength, ← utf8Len_eq_byteLength]
  exact String.extract_of_valid before piece after

end LiteratePages
