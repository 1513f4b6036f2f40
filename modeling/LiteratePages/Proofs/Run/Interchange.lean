import LiteratePages.Proofs.Number.Integers
import LiteratePages.Run.Value

namespace LiteratePages

mutual

/-- Values that JSON can hold: they have no functions, and their numbers are finite. -/
def Value.HasJson : Value → Prop
  | .none | .boolean _ | .string _ => True
  | .number x => x.isFinite = true
  | .list items => ItemsHaveJson items
  | .map entries => EntriesHaveJson entries
  | .function _ => False
termination_by structural value => value

def ItemsHaveJson : List Value → Prop
  | [] => True
  | item :: rest => item.HasJson ∧ ItemsHaveJson rest
termination_by structural items => items

def EntriesHaveJson : List (String × Value) → Prop
  | [] => True
  | (_, value) :: rest => value.HasJson ∧ EntriesHaveJson rest
termination_by structural entries => entries

end

section Numbers

variable {x : Float} {n : Int}

theorem numberToJson_of_whole (read : Number.smallInteger? x = some n) :
    Value.numberToJson x = .integer n := by
  rw [Value.numberToJson, read]

theorem numberToJson_of_isFinite (other : Number.smallInteger? x = none)
    (finite : x.isFinite = true) : Value.numberToJson x = .real x := by
  obtain ⟨_, _, _, exact⟩ := exists_of_isFinite finite
  rw [Value.numberToJson, other]
  dsimp only
  rw [exact]

/-- A number is written as an integer, as itself, or as nothing. -/
theorem numberToJson_eq (x : Float) :
    (∃ n, Number.smallInteger? x = some n ∧ Value.numberToJson x = .integer n) ∨
      Value.numberToJson x = .real x ∨ Value.numberToJson x = .null := by
  cases read : Number.smallInteger? x with
  | some n => exact .inl ⟨n, rfl, numberToJson_of_whole read⟩
  | none =>
      right
      rw [Value.numberToJson, read]
      cases Exact.ofFloat x with
      | finite negative mantissa exponent => exact .inl rfl
      | infinite negative => exact .inr rfl
      | nan => exact .inr rfl

theorem toJson_ofJson_numberToJson (x : Float) :
    (Value.ofJson (Value.numberToJson x)).toJson = Value.numberToJson x := by
  rcases numberToJson_eq x with ⟨n, read, written⟩ | written | written
  · rw [written]
    exact numberToJson_of_whole (Number.smallInteger?_ofInt (Number.beq_ofInt read).1)
  · rw [written]
    exact written
  · rw [written]
    rfl

theorem equal_ofJson_numberToJson (finite : x.isFinite = true) :
    (Value.ofJson (Value.numberToJson x)).equal (.number x) = true := by
  cases read : Number.smallInteger? x with
  | some n =>
      rw [numberToJson_of_whole read]
      exact (Number.beq_ofInt read).2
  | none =>
      rw [numberToJson_of_isFinite read finite]
      exact beq_self_of_isFinite finite

end Numbers

mutual

/-- What is written again after it has been read back is the same. -/
theorem Value.toJson_ofJson_toJson : (value : Value) →
    (Value.ofJson value.toJson).toJson = value.toJson
  | .none | .boolean _ | .string _ | .function _ => rfl
  | .number x => toJson_ofJson_numberToJson x
  | .list items => congrArg Json.list (itemsToJson_itemsOfJson items)
  | .map entries => congrArg Json.object (entriesToJson_entriesOfJson entries)
termination_by structural value => value

theorem itemsToJson_itemsOfJson : (items : List Value) →
    Value.itemsToJson (Value.itemsOfJson (Value.itemsToJson items)) = Value.itemsToJson items
  | [] => rfl
  | item :: rest => by
      have first := item.toJson_ofJson_toJson
      have others := itemsToJson_itemsOfJson rest
      simp only [Value.itemsToJson, Value.itemsOfJson, first, others]
termination_by structural items => items

theorem entriesToJson_entriesOfJson : (entries : List (String × Value)) →
    Value.entriesToJson (Value.entriesOfJson (Value.entriesToJson entries)) =
      Value.entriesToJson entries
  | [] => rfl
  | (key, value) :: rest => by
      have first := value.toJson_ofJson_toJson
      have others := entriesToJson_entriesOfJson rest
      simp only [Value.entriesToJson, Value.entriesOfJson, first, others]
termination_by structural entries => entries

end

mutual

/-- What JSON can hold comes back equal. -/
theorem Value.equal_ofJson_toJson : (value : Value) → value.HasJson →
    (Value.ofJson value.toJson).equal value = true
  | .none, _ => rfl
  | .boolean value, _ => beq_self_eq_true value
  | .string value, _ => beq_self_eq_true value
  | .number _, finite => equal_ofJson_numberToJson finite
  | .list items, held => equalItems_itemsOfJson items held
  | .map entries, held => equalEntries_entriesOfJson entries held
termination_by structural value => value

theorem equalItems_itemsOfJson : (items : List Value) → ItemsHaveJson items →
    Value.equalItems (Value.itemsOfJson (Value.itemsToJson items)) items = true
  | [], _ => rfl
  | item :: rest, held => by
      have first := item.equal_ofJson_toJson held.1
      have others := equalItems_itemsOfJson rest held.2
      exact Bool.and_eq_true_iff.mpr ⟨first, others⟩
termination_by structural items => items

theorem equalEntries_entriesOfJson : (entries : List (String × Value)) → EntriesHaveJson entries →
    Value.equalEntries (Value.entriesOfJson (Value.entriesToJson entries)) entries = true
  | [], _ => rfl
  | (key, value) :: rest, held => by
      have first := value.equal_ofJson_toJson held.1
      have others := equalEntries_entriesOfJson rest held.2
      simp only [Value.entriesToJson, Value.entriesOfJson, Value.equalEntries, first, others,
        beq_self_eq_true, Bool.and_true]
termination_by structural entries => entries

end

section Lookup

variable {entries : Entries Value} {name : String} {value : Value}

theorem get?_entriesToJson (entries : Entries Value) (name : String) :
    Entries.get? (Value.entriesToJson entries) name =
      (Entries.get? entries name).map Value.toJson := by
  unfold Entries.get?
  induction entries with
  | nil => rfl
  | cons entry rest ih =>
      obtain ⟨key, value⟩ := entry
      rw [Value.entriesToJson, List.lookup_cons, List.lookup_cons]
      cases name == key with
      | true => rfl
      | false => exact ih

theorem hasJson_of_get? (held : EntriesHaveJson entries)
    (found : Entries.get? entries name = some value) : value.HasJson := by
  unfold Entries.get? at found
  induction entries with
  | nil => cases found
  | cons entry rest ih =>
      obtain ⟨key, other⟩ := entry
      rw [List.lookup_cons] at found
      cases same : name == key with
      | true =>
          rw [same] at found
          obtain rfl := Option.some.inj found
          exact held.1
      | false =>
          rw [same] at found
          exact ih held.2 found

end Lookup

end LiteratePages
