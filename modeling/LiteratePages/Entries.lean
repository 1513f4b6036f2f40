/-!
Mappings from texts, kept as pairs in the order of their keys. The order is that of code points,
each key stands once, and a later value for a key takes the place of an earlier one.
-/
namespace LiteratePages

abbrev Entries (α : Type) := List (String × α)

namespace Entries

variable {α : Type}

def get? (entries : Entries α) (key : String) : Option α := entries.lookup key

def contains (entries : Entries α) (key : String) : Bool := (entries.get? key).isSome

def keys (entries : Entries α) : List String := entries.map (·.1)

/-- Gives `key` the value `value`, in its place. -/
def insert (key : String) (value : α) : Entries α → Entries α
  | [] => [(key, value)]
  | (other, held) :: rest =>
      if key = other then (key, value) :: rest
      else if key < other then (key, value) :: (other, held) :: rest
      else (other, held) :: insert key value rest

/-- Inserts pairs one after the other, so that the last one for a key stays. -/
def insertAll (entries : Entries α) (pairs : List (String × α)) : Entries α :=
  pairs.foldl (fun entries (key, value) => insert key value entries) entries

def ofList (pairs : List (String × α)) : Entries α := insertAll [] pairs

theorem get?_insert_self (key : String) (value : α) (entries : Entries α) :
    (insert key value entries).get? key = some value := by
  induction entries with
  | nil => simp [insert, get?]
  | cons pair rest ih =>
      obtain ⟨other, held⟩ := pair
      by_cases same : key = other
      · simp [insert, get?, same]
      · by_cases before : key < other
        · simp [insert, get?, same, before]
        · have apart : (key == other) = false := by simpa using same
          simpa [insert, get?, same, before, List.lookup_cons, apart] using ih

theorem get?_insert_of_ne {key name : String} (different : name ≠ key) (value : α)
    (entries : Entries α) : (insert key value entries).get? name = entries.get? name := by
  have apart : (name == key) = false := by simpa using different
  induction entries with
  | nil => simp [insert, get?, List.lookup_cons, apart]
  | cons pair rest ih =>
      obtain ⟨other, held⟩ := pair
      by_cases same : key = other
      · subst same
        simp [insert, get?, List.lookup_cons, apart]
      · by_cases before : key < other
        · simp [insert, get?, same, before, List.lookup_cons, apart]
        · simp only [get?] at ih
          simp [insert, get?, same, before, List.lookup_cons, ih]

/-- What comes first stays where nothing is inserted in its place. -/
theorem get?_insertAll_of_none {entries pairs : Entries α} {name : String}
    (absent : get? pairs name = none) :
    (insertAll entries pairs).get? name = entries.get? name := by
  induction pairs generalizing entries with
  | nil => rfl
  | cons pair rest ih =>
      obtain ⟨key, value⟩ := pair
      rw [get?, List.lookup_cons] at absent
      cases same : name == key with
      | true =>
          rw [same] at absent
          cases absent
      | false =>
          rw [same] at absent
          have different : name ≠ key := by simpa using same
          exact (ih absent).trans (get?_insert_of_ne different value entries)

theorem insert_of_forall_lt {key : String} {entries : Entries α}
    (above : ∀ other ∈ entries.keys, other < key) (value : α) :
    insert key value entries = entries ++ [(key, value)] := by
  induction entries with
  | nil => rfl
  | cons pair rest ih =>
      obtain ⟨other, held⟩ := pair
      have before : other < key := above other List.mem_cons_self
      have apart : key ≠ other := fun same => String.lt_irrefl _ (same ▸ before)
      have behind : ¬ key < other := String.lt_asymm before
      have later := ih fun name member => above name (List.mem_cons_of_mem other member)
      rw [insert, if_neg apart, if_neg behind, later]
      rfl

end Entries
end LiteratePages
