import LiteratePages.Proofs.Run.Capped
import LiteratePages.Proofs.Run.Relabeling

namespace LiteratePages

/-- The whole numbers from `first` up to but not including `stop`, in order and each as a float,
unless there are more than a list may hold. -/
structure Builtin.CountsUp (first stop : Int) (outcome : Except Fault Value) : Prop where
  counted : 0 < stop - first → stop - first ≤ 2 ^ 24 → ∃ items, outcome = .ok (.list items) ∧
    items.length = stop - first ∧
      ∀ n : Nat, n < stop - first → items[n]? = some (.number (Float.ofInt (first + n)))
  empty : stop ≤ first → outcome = .ok (.list [])
  refused : 2 ^ 24 < stop - first → outcome = .error (.tooLarge .range)

/-- The item at a place, which counts from the end where it is below zero. -/
structure Value.Picks {α : Type} (items : List α) (index : Int) (outcome : Except Fault α) :
    Prop where
  front : 0 ≤ index → index < items.length →
    ∃ item, items[index.toNat]? = some item ∧ outcome = .ok item
  back : -items.length ≤ index → index < 0 →
    ∃ item, items[(items.length + index).toNat]? = some item ∧ outcome = .ok item
  outside : index < -items.length ∨ items.length ≤ index →
    outcome = .error (.indexOutOfBounds index)

/-- The text `count` times, unless that is more than a string may hold. -/
structure Value.Repeats (text : String) (count : Nat) (outcome : Except Fault Value) : Prop where
  copied : text.utf8ByteSize * count ≤ 2 ^ 24 →
    outcome = .ok (.string (String.join (List.replicate count text)))
  empty : text.utf8ByteSize = 0 → outcome = .ok (.string "")
  refused : 2 ^ 24 < text.utf8ByteSize * count → outcome = .error (.tooLarge .repeated)

namespace Builtin

theorem span_le_iff (first stop : Int) : span first stop ≤ maxLength ↔ stop - first ≤ 2 ^ 24 := by
  have most : maxLength = 2 ^ 24 := rfl
  rw [span_eq]
  omega

theorem getElem?_wholeNumbers {first stop : Int} {n : Nat} (inside : n < stop - first) :
    (wholeNumbers first stop)[n]? = some (first + n) := by
  have within : n < (stop - first).toNat := by omega
  simp [wholeNumbers, List.getElem?_range within]

theorem rangeOf_countsUp (first stop : Int) : CountsUp first stop (rangeOf first stop) := by
  have taken : stop - first ≤ 2 ^ 24 → rangeOf first stop =
      .ok (.list ((wholeNumbers first stop).map fun n => .number (Float.ofInt n))) := by
    intro few
    rw [rangeOf, Value.checkLength, if_pos ((span_le_iff first stop).mpr few)]
    rfl
  refine ⟨fun some few => ⟨_, taken few, ?_, fun n inside => ?_⟩, fun none => ?_, fun many => ?_⟩
  · rw [List.length_map, length_wholeNumbers]
    omega
  · rw [List.getElem?_map, getElem?_wholeNumbers inside]
    rfl
  · have nothing : wholeNumbers first stop = [] := by
      rw [← List.length_eq_zero_iff, length_wholeNumbers]
      omega
    rw [taken (by omega), nothing]
    rfl
  · exact rangeOf_of_lt (Nat.not_le.mp (mt (span_le_iff first stop).mp (Int.not_le.mpr many)))

theorem asInteger_number {x : Float} (whole : Number.isFloor x = true) :
    asInteger (.number x) = .ok (Number.toSigned64 x) :=
  if_pos whole

variable {first stop : Float}

theorem apply_range_one (whole : Number.isFloor stop = true) :
    apply .range [.number stop] = rangeOf 0 (Number.toSigned64 stop) := by
  change (asInteger (.number stop) >>= rangeOf 0) = _
  rw [asInteger_number whole]
  rfl

theorem apply_range_two (start : Number.isFloor first = true) (whole : Number.isFloor stop = true) :
    apply .range [.number first, .number stop] =
      rangeOf (Number.toSigned64 first) (Number.toSigned64 stop) := by
  change (asInteger (.number first) >>= fun start =>
    asInteger (.number stop) >>= rangeOf start) = _
  rw [asInteger_number start, asInteger_number whole]
  rfl

end Builtin

namespace Value

variable {α : Type} {items : List α} {index : Int} {length : Nat}

/-- Neither the length nor a place counted from the end goes around. -/
theorem position_eq (low : -2 ^ 63 ≤ index) (high : index < 2 ^ 63) (few : length ≤ 2 ^ 24) :
    position index length =
      if -length ≤ index ∧ index < 0 then .ok (length + index).toNat
      else if 0 ≤ index ∧ index < length then .ok index.toNat
      else .error (.indexOutOfBounds index) := by
  have size : Number.wrapSigned64 length = length :=
    Number.wrapSigned64_of_mem (by omega) (by omega)
  unfold position
  dsimp only
  rw [size]
  by_cases below : index < 0
  · have sum : Number.wrapSigned64 (length + index) = length + index :=
      Number.wrapSigned64_of_mem (by omega) (by omega)
    rw [if_pos below, sum]
    by_cases inside : -length ≤ index
    · rw [if_neg (by omega), if_pos ⟨inside, below⟩,
        Number.wrapUnsigned64_of_mem (by omega) (by omega)]
    · rw [if_pos (by omega), if_neg (by omega), if_neg (by omega)]
  · rw [if_neg below]
    by_cases inside : index < length
    · rw [if_neg (by omega), if_neg (by omega), if_pos (by omega),
        Number.wrapUnsigned64_of_mem (by omega) (by omega)]
    · rw [if_pos (by omega), if_neg (by omega), if_neg (by omega)]

theorem pick_of_position {place : Nat} (found : position index items.length = .ok place)
    (inside : place < items.length) :
    ∃ item, items[place]? = some item ∧ pick items index = .ok item := by
  refine ⟨items[place], List.getElem?_eq_getElem inside, ?_⟩
  simp only [pick, found, bind, Except.bind, List.getElem?_eq_getElem inside]
  rfl

theorem pick_picks (low : -2 ^ 63 ≤ index) (high : index < 2 ^ 63)
    (few : items.length ≤ 2 ^ 24) : Picks items index (pick items index) := by
  have placed := position_eq low high few
  refine ⟨fun start inside => ?_, fun start below => ?_, fun outside => ?_⟩
  · rw [if_neg (by omega), if_pos ⟨start, inside⟩] at placed
    exact pick_of_position placed (by omega)
  · rw [if_pos ⟨start, below⟩] at placed
    exact pick_of_position placed (by omega)
  · rw [if_neg (by omega), if_neg (by omega)] at placed
    rw [pick, placed]
    rfl

theorem select_number {x : Float} (whole : Number.isFloor x = true) :
    select items (.number x) = pick items (Number.toSigned64 x) := by
  simp only [select, asNumber, bind, Except.bind, whole]
  rfl

/-- A character of a text is picked as the text of it is. -/
theorem atIndex_string (text : String) (x : Float) (whole : Number.isFloor x = true) :
    atIndex (.string text) (.number x) =
      pick (text.toList.map fun c => .string (String.singleton c)) (Number.toSigned64 x) := by
  rw [pick_map, ← select_number whole]
  rfl

theorem copies_eq_join (text : String) (count : Nat) :
    copies text count = String.join (List.replicate count text) := by
  unfold copies
  induction count with
  | zero => rfl
  | succ count ih => simp [Nat.repeat, ih, List.replicate_succ', String.join, List.foldl_append]

/-- Neither a product that no word holds nor one with nothing to repeat is a case of its own. -/
theorem repeatedTimes_eq (text : String) (count : Nat) :
    repeatedTimes text count =
      if text.utf8ByteSize * count ≤ maxLength then .ok (.string (copies text count))
      else .error (.tooLarge .repeated) := by
  unfold repeatedTimes
  split
  · rename_i nothing
    have size : text.utf8ByteSize * count = 0 := by
      rcases nothing with empty | zero
      · rw [String.isEmpty_iff.mp empty]
        exact Nat.zero_mul count
      · rw [zero, Nat.mul_zero]
    rw [if_pos (by omega), String.utf8ByteSize_eq_zero_iff.mp
      ((utf8ByteSize_copies text count).trans size)]
  · rw [checkLength_unsigned64?, checkLength]
    split <;> rfl

theorem repeatedTimes_repeats (text : String) (count : Nat) :
    Repeats text count (repeatedTimes text count) := by
  rw [repeatedTimes_eq, copies_eq_join]
  refine ⟨fun few => if_pos few, fun empty => ?_, fun many => if_neg (Nat.not_le.mpr many)⟩
  have size : (copies text count).utf8ByteSize = 0 := by
    rw [utf8ByteSize_copies, empty, Nat.zero_mul]
  rw [empty, Nat.zero_mul, if_pos (Nat.zero_le _), ← copies_eq_join,
    String.utf8ByteSize_eq_zero_iff.mp size]

end Value

/-- Sequences come out as exact arithmetic has them, for all words and so for all numbers that are
brought to words: at either end of their ranges a count, a place and a size are what they are on
whole numbers. -/
theorem sequence_arithmetic_exact :
    (∀ first stop : Int64, Builtin.CountsUp first.toInt stop.toInt
      (Builtin.rangeOf first.toInt stop.toInt)) ∧
    (∀ first stop : Float, Number.isFloor first = true → Number.isFloor stop = true →
      Builtin.CountsUp 0 (Number.toSigned64 stop) (Builtin.apply .range [.number stop]) ∧
      Builtin.CountsUp (Number.toSigned64 first) (Number.toSigned64 stop)
        (Builtin.apply .range [.number first, .number stop])) ∧
    (∀ {α : Type} (items : List α) (index : Int64), items.length ≤ 2 ^ 24 →
      Value.Picks items index.toInt (Value.pick items index.toInt)) ∧
    (∀ (items : List Value) (index : Float), items.length ≤ 2 ^ 24 → Number.isFloor index = true →
      Value.Picks items (Number.toSigned64 index) (Value.atIndex (.list items) (.number index))) ∧
    (∀ (text : String) (index : Float), text.length ≤ 2 ^ 24 → Number.isFloor index = true →
      Value.Picks (text.toList.map fun c => .string (String.singleton c)) (Number.toSigned64 index)
        (Value.atIndex (.string text) (.number index))) ∧
    (∀ (text : String) (count : UInt64),
      Value.Repeats text count.toNat (Value.repeatedTimes text count.toNat)) ∧
    ∀ (text : String) (count : Float),
      let times := if 0 < count then Number.toUnsigned64 count else 0
      Value.Repeats text times (Value.binary .multiply (.string text) (.number count)) ∧
      Value.Repeats text times (Value.binary .multiply (.number count) (.string text)) := by
  refine ⟨fun first stop => Builtin.rangeOf_countsUp _ _, fun first stop start whole => ⟨?_, ?_⟩,
    fun items index few => Value.pick_picks index.le_toInt index.toInt_lt few,
    fun items index few whole => ?_, fun text index few whole => ?_,
    fun text count => Value.repeatedTimes_repeats text _,
    fun text count => ⟨Value.repeatedTimes_repeats text _, Value.repeatedTimes_repeats text _⟩⟩
  · rw [Builtin.apply_range_one whole]
    exact Builtin.rangeOf_countsUp _ _
  · rw [Builtin.apply_range_two start whole]
    exact Builtin.rangeOf_countsUp _ _
  · obtain ⟨low, high⟩ := Number.toSigned64_mem index
    have picked : Value.atIndex (.list items) (.number index) = _ := Value.select_number whole
    rw [picked]
    exact Value.pick_picks low high few
  · obtain ⟨low, high⟩ := Number.toSigned64_mem index
    rw [Value.atIndex_string text index whole]
    exact Value.pick_picks low high (by rwa [List.length_map, String.length_toList])

/-- Numbers far outside of the words, and the ends of the words themselves. -/
theorem sequence_arithmetic_exact_ends :
    Number.isFloor (-1e300) = true ∧ Number.isFloor 1e300 = true ∧
    Builtin.apply .range [.number (-1e300), .number 1e300] = .error (.tooLarge .range) ∧
    Builtin.rangeOf Int64.maxValue.toInt Int64.minValue.toInt = .ok (.list []) ∧
    [1, 2, 3].length ≤ 2 ^ 24 ∧
    Value.pick [1, 2, 3] Int64.minValue.toInt = .error (.indexOutOfBounds (-2 ^ 63)) ∧
    Value.pick [1, 2, 3] (-3 : Int64).toInt = .ok 1 ∧
    Value.atIndex (.list [.boolean true, .none]) (.number 1e300) =
      .error (.indexOutOfBounds (2 ^ 63 - 1)) ∧
    Value.atIndex (.string "né") (.number (-1e300)) = .error (.indexOutOfBounds (-2 ^ 63)) ∧
    Value.repeatedTimes "ab" (-1 : UInt64).toNat = .error (.tooLarge .repeated) ∧
    Value.repeatedTimes "" (-1 : UInt64).toNat = .ok (.string "") := by
  have low : Number.isFloor (-1e300) = true := by decide +kernel
  have high : Number.isFloor 1e300 = true := by decide +kernel
  have few : [1, 2, 3].length ≤ 2 ^ 24 := by decide
  have least : Number.toSigned64 (-1e300) = -2 ^ 63 := by decide +kernel
  have greatest : Number.toSigned64 1e300 = 2 ^ 63 - 1 := by decide +kernel
  obtain ⟨words, floats, picks, lists, texts, repeats, _⟩ := sequence_arithmetic_exact
  refine ⟨low, high, ?_, ?_, few, ?_, ?_, ?_, ?_, ?_, ?_⟩
  · exact (floats _ _ low high).2.refused (by rw [least, greatest]; decide)
  · exact (words _ _).empty (by decide)
  · exact (picks [1, 2, 3] Int64.minValue few).outside (.inl (by decide))
  · obtain ⟨item, found, picked⟩ := (picks [1, 2, 3] (-3) few).back (by decide) (by decide)
    cases found
    exact picked
  · rw [← greatest]
    exact (lists _ 1e300 (by decide) high).outside (.inr (by rw [greatest]; decide))
  · rw [← least]
    exact (texts "né" (-1e300) (by decide) low).outside (.inl (by rw [least]; decide))
  · exact (repeats "ab" (-1)).refused (by decide)
  · exact (repeats "" (-1)).empty rfl

end LiteratePages
