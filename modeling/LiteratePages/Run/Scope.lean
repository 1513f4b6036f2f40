import LiteratePages.Run.Value

namespace LiteratePages

/-- The bindings of names, each of which stands once, and how many functions have been made while
they were in use. -/
structure Scope where
  bindings : List (String × Value)
  made : Nat

namespace Scope

def empty : Scope := ⟨[], 0⟩

def get? (scope : Scope) (name : String) : Option Value := scope.bindings.lookup name

def contains (scope : Scope) (name : String) : Bool := (scope.get? name).isSome

/-- Puts a binding in place of the one for the same name, or after all others. -/
def bind (name : String) (value : Value) : List (String × Value) → List (String × Value)
  | [] => [(name, value)]
  | (other, held) :: rest =>
      if name = other then (name, value) :: rest else (other, held) :: bind name value rest

def set (scope : Scope) (name : String) (value : Value) : Scope :=
  { scope with bindings := bind name value scope.bindings }

def make (scope : Scope) (callee : Callee) : Function × Scope :=
  (⟨callee, scope.made⟩, { scope with made := scope.made + 1 })

def define (scope : Scope) (name : String) : Scope :=
  let (function, scope) := scope.make (.host name)
  scope.set name (.function function)

/-- A variable for every entry of an object. -/
def ofData (data : Metadata) : Scope :=
  ⟨data.map fun (name, value) => (name, Value.ofJson value), 0⟩

theorem get?_set_self (scope : Scope) (name : String) (value : Value) :
    (scope.set name value).get? name = some value := by
  simp only [set, get?]
  induction scope.bindings with
  | nil => simp [bind]
  | cons pair rest ih =>
      obtain ⟨other, held⟩ := pair
      by_cases same : name = other
      · simp [bind, same]
      · have apart : (name == other) = false := by simpa using same
        simp [bind, same, List.lookup_cons, apart, ih]

theorem get?_set_of_ne {name other : String} (different : other ≠ name) (scope : Scope)
    (value : Value) : (scope.set name value).get? other = scope.get? other := by
  have apart : (other == name) = false := by simpa using different
  simp only [set, get?]
  induction scope.bindings with
  | nil => simp [bind, List.lookup_cons, apart]
  | cons pair rest ih =>
      obtain ⟨first, held⟩ := pair
      by_cases same : name = first
      · subst same
        simp [bind, List.lookup_cons, apart]
      · simp [bind, same, List.lookup_cons, ih]

theorem get?_define_self (scope : Scope) (name : String) :
    (scope.define name).get? name = some (.function ⟨.host name, scope.made⟩) :=
  get?_set_self ..

theorem get?_define_of_ne {name other : String} (different : other ≠ name) (scope : Scope) :
    (scope.define name).get? other = scope.get? other :=
  get?_set_of_ne different ..

theorem get?_ofData (data : Metadata) (name : String) :
    (ofData data).get? name = (Entries.get? data name).map Value.ofJson := by
  change List.lookup name (data.map fun entry => (entry.1, Value.ofJson entry.2)) =
    (List.lookup name data).map Value.ofJson
  induction data with
  | nil => rfl
  | cons entry rest ih =>
      rw [List.map_cons, List.lookup_cons, List.lookup_cons]
      cases name == entry.1 with
      | true => rfl
      | false => exact ih

theorem contains_ofData (data : Metadata) (name : String) :
    (ofData data).contains name = Entries.contains data name := by
  rw [contains, get?_ofData, Option.isSome_map, Entries.contains]

end Scope
end LiteratePages
