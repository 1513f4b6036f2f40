import LiteratePages.Proofs.Meets
import LiteratePages.Proofs.Number.Words
import LiteratePages.Run.Evaluation

namespace LiteratePages

/-- The functions that look at how much they build, or build no string and no list. -/
def Builtin.capped : Builtin → Bool
  | .print | .len | .range | .get => true
  | .str | .join | .keys | .upper | .lower => false

def Callee.capped : Callee → Bool
  | .builtin function => function.capped
  | .host _ => true

mutual

/-- No string or list in the value is beyond the cap, and no function in it builds one that is. -/
def Value.Capped : Value → Prop
  | .number _ | .boolean _ | .none => True
  | .string text => text.utf8ByteSize ≤ maxLength
  | .list items => items.length ≤ maxLength ∧ CappedItems items
  | .map entries => CappedEntries entries
  | .function made => made.callee.capped = true
termination_by structural value => value

def CappedItems : List Value → Prop
  | [] => True
  | item :: rest => item.Capped ∧ CappedItems rest
termination_by structural items => items

def CappedEntries : List (String × Value) → Prop
  | [] => True
  | (key, value) :: rest => key.utf8ByteSize ≤ maxLength ∧ value.Capped ∧ CappedEntries rest
termination_by structural entries => entries

end

theorem cappedItems_iff {items : List Value} : CappedItems items ↔ ∀ item ∈ items, item.Capped := by
  induction items with
  | nil => simp [CappedItems]
  | cons item rest ih => simp [CappedItems, ih]

theorem cappedEntries_iff {entries : List (String × Value)} :
    CappedEntries entries ↔
      ∀ entry ∈ entries, entry.1.utf8ByteSize ≤ maxLength ∧ entry.2.Capped := by
  induction entries with
  | nil => simp [CappedEntries]
  | cons entry rest ih => simp [CappedEntries, ih, and_assoc]

/-- A character is no more than four bytes. -/
theorem capped_singleton (c : Char) : (Value.string (String.singleton c)).Capped := by
  have room : 4 ≤ maxLength := by decide
  have size : (String.singleton c).utf8ByteSize = c.utf8Size := by simp
  change (String.singleton c).utf8ByteSize ≤ maxLength
  rw [size]
  exact Nat.le_trans c.utf8Size_le_four room

theorem Entries.capped_insert {entries : Entries Value} {key : String} {value : Value}
    (capped : CappedEntries entries) (fits : key.utf8ByteSize ≤ maxLength) (held : value.Capped) :
    CappedEntries (entries.insert key value) := by
  induction entries with
  | nil => exact ⟨fits, held, trivial⟩
  | cons entry rest ih =>
      obtain ⟨other, old⟩ := entry
      obtain ⟨first, second, later⟩ := capped
      unfold Entries.insert
      split
      · exact ⟨fits, held, later⟩
      · split
        · exact ⟨fits, held, first, second, later⟩
        · exact ⟨first, second, ih later⟩

theorem Entries.capped_get? {entries : Entries Value} {key : String} {value : Value}
    (capped : CappedEntries entries) (found : entries.get? key = some value) : value.Capped := by
  induction entries with
  | nil => cases found
  | cons entry rest ih =>
      obtain ⟨other, held⟩ := entry
      obtain ⟨_, first, later⟩ := capped
      unfold Entries.get? at found ih
      rw [List.lookup_cons] at found
      split at found
      · cases found
        exact first
      · exact ih later found

namespace Value

variable {left right result : Value}

theorem utf8ByteSize_copies (text : String) (count : Nat) :
    (copies text count).utf8ByteSize = text.utf8ByteSize * count := by
  unfold copies
  induction count with
  | zero => rfl
  | succ count ih =>
      rw [Nat.repeat, String.utf8ByteSize_append, ih, Nat.mul_succ]

/-- What no word holds is refused like any other length beyond the most. -/
theorem checkLength_unsigned64? (length : Nat) (what : Oversize) :
    checkLength (Number.unsigned64? length) what = checkLength (some length) what := by
  cases held : Number.unsigned64? length with
  | some word =>
      obtain ⟨same, _⟩ := Number.unsigned64?_eq_some_iff.mp held
      rw [Int.ofNat_inj.mp same]
  | none =>
      have beyond : ¬ length < 2 ^ 64 := fun small =>
        Option.some_ne_none length
          ((Number.unsigned64?_eq_some_iff.mpr ⟨rfl, small⟩).symm.trans held)
      have most : maxLength = 2 ^ 24 := rfl
      have long : ¬ length ≤ maxLength := by omega
      simp only [checkLength, if_neg long]

theorem checkLength_gives (length : Nat) (what : Oversize) :
    Gives (fun _ => length ≤ maxLength) (checkLength (some length) what) := by
  unfold checkLength
  dsimp only
  split
  · assumption
  · trivial

theorem arithmetic_gives (operation : Float → Float → Float) :
    Gives Capped (arithmetic left right operation) :=
  .bind (gives_any _) fun _ _ => .bind (gives_any _) fun _ _ => trivial

theorem quotient_gives (operation : Float → Float → Float) :
    Gives Capped (quotient left right operation) := by
  refine .bind (gives_any _) fun a _ => .bind (gives_any _) fun b _ => ?_
  dsimp only
  split <;> trivial

theorem ordered_gives (strings : String → String → Bool) (numbers : Float → Float → Bool) :
    Gives Capped (ordered left right strings numbers) := by
  unfold ordered
  split
  · trivial
  · exact .bind (gives_any _) fun _ _ => .bind (gives_any _) fun _ _ => trivial

theorem repeatedTimes_gives (text : String) (count : Nat) :
    Gives Capped (repeatedTimes text count) := by
  unfold repeatedTimes
  split
  · exact Nat.zero_le _
  · rw [checkLength_unsigned64?]
    refine .bind (checkLength_gives _ _) fun _ fits => ?_
    rw [← utf8ByteSize_copies] at fits
    exact fits

theorem add_gives (first : left.Capped) (second : right.Capped) :
    Gives Capped (add left right) := by
  unfold add
  split
  · trivial
  · rw [checkLength_unsigned64?]
    refine .bind (checkLength_gives _ _) fun _ fits => ?_
    rw [← String.utf8ByteSize_append] at fits
    exact fits
  · rw [checkLength_unsigned64?]
    refine .bind (checkLength_gives _ _) fun _ fits => ?_
    rw [← List.length_append] at fits
    refine ⟨fits, cappedItems_iff.mpr fun item member => ?_⟩
    rcases List.mem_append.mp member with before | after
    · exact cappedItems_iff.mp first.2 item before
    · exact cappedItems_iff.mp second.2 item after
  · trivial

theorem multiply_gives : Gives Capped (multiply left right) := by
  unfold multiply
  split
  · exact repeatedTimes_gives _ _
  · exact repeatedTimes_gives _ _
  · exact arithmetic_gives _

theorem binary_gives (op : Code.Binary) (first : left.Capped) (second : right.Capped) :
    Gives Capped (binary op left right) := by
  cases op with
  | add => exact add_gives first second
  | multiply => exact multiply_gives
  | subtract => exact arithmetic_gives _
  | divide | modulo => exact quotient_gives _
  | greater | less | greaterOrEqual | lessOrEqual => exact ordered_gives _ _
  | equal | unequal | and | or => trivial

theorem checkLength_of_lt {length : Nat} {what : Oversize} (long : maxLength < length) :
    checkLength (some length) what = .error (.tooLarge what) :=
  if_neg (Nat.not_le.mpr long)

theorem add_strings_of_le {a b : String} (fits : a.utf8ByteSize + b.utf8ByteSize ≤ maxLength) :
    add (.string a) (.string b) = .ok (.string (a ++ b)) := by
  rw [add, checkLength_unsigned64?, checkLength, if_pos fits]
  rfl

/-- Texts that are too long together are not joined. -/
theorem add_strings_of_lt {a b : String} (long : maxLength < a.utf8ByteSize + b.utf8ByteSize) :
    add (.string a) (.string b) = .error (.tooLarge .concatenatedString) := by
  rw [add, checkLength_unsigned64?, checkLength_of_lt long]
  rfl

theorem add_lists_of_lt {a b : List Value} (long : maxLength < a.length + b.length) :
    add (.list a) (.list b) = .error (.tooLarge .concatenatedList) := by
  rw [add, checkLength_unsigned64?, checkLength_of_lt long]
  rfl

/-- A text that would be too long is not repeated. -/
theorem repeated_of_lt {text : String} {count : Float} (above : 0 < count)
    (long : maxLength < (copies text (Number.toUnsigned64 count)).utf8ByteSize) :
    repeated text count = .error (.tooLarge .repeated) := by
  rw [utf8ByteSize_copies] at long
  have some : ¬ (text.isEmpty ∨ Number.toUnsigned64 count = 0) := by
    rintro (empty | zero)
    · rw [String.isEmpty_iff.mp empty] at long
      simp at long
    · simp [zero] at long
  rw [repeated, if_pos above, repeatedTimes, if_neg some, checkLength_unsigned64?,
    checkLength_of_lt long]
  rfl

theorem unary_gives (op : Code.Unary) (operand : Value) : Gives Capped (operand.unary op) := by
  cases op with
  | negation => exact .bind (gives_any _) fun _ _ => trivial
  | logicalNot => trivial

theorem pick_gives {α : Type} (items : List α) (index : Int) :
    Gives (· ∈ items) (pick items index) := by
  refine .bind (gives_any _) fun place _ => ?_
  split
  · rename_i item found
    exact List.mem_of_getElem? found
  · trivial

theorem select_gives {α : Type} (items : List α) (index : Value) :
    Gives (· ∈ items) (select items index) := by
  refine .bind (gives_any _) fun n _ => ?_
  dsimp only
  split
  · trivial
  · exact pick_gives items _

theorem atIndex_gives {index : Value} (capped : left.Capped) :
    Gives Capped (left.atIndex index) := by
  unfold atIndex
  split
  · exact .mono (select_gives _ index) (cappedItems_iff.mp capped.2) fun _ _ => trivial
  · exact .bind (gives_any _) fun c _ => capped_singleton c
  · split
    · split
      · rename_i found
        exact Entries.capped_get? capped found
      · trivial
    · trivial
  · trivial

theorem iterate_gives (capped : left.Capped) : Gives CappedItems left.iterate := by
  unfold iterate
  split
  · exact capped.2
  · refine cappedItems_iff.mpr fun item member => ?_
    obtain ⟨key, within, rfl⟩ := List.mem_map.mp member
    obtain ⟨entry, inside, rfl⟩ := List.mem_map.mp within
    exact (cappedEntries_iff.mp capped entry inside).1
  · refine cappedItems_iff.mpr fun item member => ?_
    obtain ⟨c, _, rfl⟩ := List.mem_map.mp member
    exact capped_singleton c
  · trivial

end Value

namespace Builtin

theorem span_eq (first stop : Int) : span first stop = min (stop - first).toNat (2 ^ 63 - 1) := by
  have brought := Number.saturatingSubtract_eq stop first
  unfold span
  cases held : Number.unsigned64? (Number.saturatingSubtract stop first) with
  | some word =>
      obtain ⟨same, _⟩ := Number.unsigned64?_eq_some_iff.mp held
      rw [Option.getD_some]
      omega
  | none =>
      have below : ¬ 0 ≤ Number.saturatingSubtract stop first := fun whole =>
        Option.some_ne_none _ ((Number.unsigned64?_eq_some_iff.mpr
          ⟨(Int.toNat_of_nonneg whole).symm, by omega⟩).symm.trans held)
      rw [Option.getD_none]
      omega

theorem rangeOf_gives (first stop : Int) : Gives Value.Capped (rangeOf first stop) := by
  refine .bind (Value.checkLength_gives _ _) fun _ fits => ?_
  have most : maxLength = 2 ^ 24 := rfl
  rw [span_eq] at fits
  refine ⟨?_, cappedItems_iff.mpr fun item member => ?_⟩
  · rw [List.length_map, length_wholeNumbers]
    omega
  · obtain ⟨_, _, rfl⟩ := List.mem_map.mp member
    trivial

theorem rangeOf_of_lt {first stop : Int} (long : maxLength < span first stop) :
    rangeOf first stop = .error (.tooLarge .range) := by
  rw [rangeOf, Value.checkLength_of_lt long]
  rfl

/-- An entry of a map, or what stands in for one that is missing. -/
theorem capped_getD {entries : Entries Value} {key : String} {rest : List Value}
    (capped : CappedEntries entries) (others : CappedItems rest) :
    ((entries.get? key).getD (rest.head?.getD .none)).Capped := by
  cases found : entries.get? key with
  | some value => exact Entries.capped_get? capped found
  | none =>
      cases rest with
      | nil => trivial
      | cons first _ => exact others.1

theorem result_gives {builtin : Builtin} {arguments : List Value} (checked : builtin.capped = true)
    (capped : CappedItems arguments) : Gives Value.Capped (builtin.result arguments) := by
  unfold result
  split
  · trivial
  · split <;> trivial
  · cases checked
  · exact .bind (gives_any _) fun _ _ => rangeOf_gives _ _
  · exact .bind (gives_any _) fun _ _ => .bind (gives_any _) fun _ _ => rangeOf_gives _ _
  · cases checked
  · cases checked
  · cases checked
  · cases checked
  · obtain ⟨target, _, others⟩ := capped
    split
    · exact .bind (gives_any _) fun key _ => capped_getD target others
    · trivial
  · trivial

/-- Arguments within the cap are all that such a function needs, whatever their number. -/
theorem apply_gives {builtin : Builtin} {arguments : List Value} (checked : builtin.capped = true)
    (capped : CappedItems arguments) : Gives Value.Capped (builtin.apply arguments) := by
  unfold apply
  split
  · exact .bind (gives_any _) fun _ _ => result_gives checked capped
  · exact result_gives checked capped

end Builtin
end LiteratePages
