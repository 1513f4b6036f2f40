import LiteratePages.Run.Builtin

namespace LiteratePages

/-- Other identities for functions, which keep different functions apart. -/
structure Relabeling where
  apply : Nat → Nat
  injective : Function.Injective apply

def Relabeling.id : Relabeling := ⟨fun identity => identity, fun _ _ same => same⟩

variable (relabeling : Relabeling)

mutual

def Value.relabel : Value → Value
  | .number value => .number value
  | .boolean value => .boolean value
  | .string value => .string value
  | .none => .none
  | .list items => .list (relabelItems items)
  | .map entries => .map (relabelEntries entries)
  | .function made => .function ⟨made.callee, relabeling.apply made.identity⟩
termination_by structural value => value

def relabelItems : List Value → List Value
  | [] => []
  | item :: rest => item.relabel :: relabelItems rest
termination_by structural items => items

def relabelEntries : List (String × Value) → List (String × Value)
  | [] => []
  | (key, value) :: rest => (key, value.relabel) :: relabelEntries rest
termination_by structural entries => entries

end

/-- Data in which functions can be relabeled. -/
class Relabels (α : Type) where
  relabel : Relabeling → α → α
  relabel_id : ∀ a, relabel .id a = a

mutual

theorem Value.relabel_id : (value : Value) → value.relabel .id = value
  | .number _ | .boolean _ | .string _ | .none | .function _ => rfl
  | .list items => by rw [Value.relabel, relabelItems_id items]
  | .map entries => by rw [Value.relabel, relabelEntries_id entries]
termination_by structural value => value

theorem relabelItems_id : (items : List Value) → relabelItems .id items = items
  | [] => rfl
  | item :: rest => by rw [relabelItems, item.relabel_id, relabelItems_id rest]
termination_by structural items => items

theorem relabelEntries_id : (entries : List (String × Value)) → relabelEntries .id entries = entries
  | [] => rfl
  | (_, value) :: rest => by rw [relabelEntries, value.relabel_id, relabelEntries_id rest]
termination_by structural entries => entries

end

instance : Relabels Value := ⟨Value.relabel, Value.relabel_id⟩

instance : Relabels (List Value) := ⟨relabelItems, relabelItems_id⟩

instance : Relabels (Entries Value) := ⟨relabelEntries, relabelEntries_id⟩

/-- There are no functions in a text. -/
instance : Relabels String := ⟨fun _ text => text, fun _ => rfl⟩

instance : Relabels Unit := ⟨fun _ _ => (), fun _ => rfl⟩

theorem relabelItems_eq_map (items : List Value) :
    relabelItems relabeling items = items.map (Value.relabel relabeling) := by
  induction items with
  | nil => rfl
  | cons item rest ih => rw [relabelItems, ih, List.map_cons]

@[simp] theorem length_relabelItems (items : List Value) :
    (relabelItems relabeling items).length = items.length := by
  rw [relabelItems_eq_map, List.length_map]

@[simp] theorem length_relabelEntries (entries : List (String × Value)) :
    (relabelEntries relabeling entries).length = entries.length := by
  induction entries with
  | nil => rfl
  | cons entry rest ih => rw [relabelEntries, List.length_cons, ih, List.length_cons]

namespace Entries

variable (entries : Entries Value)

theorem keys_relabel : keys (relabelEntries relabeling entries) = keys entries := by
  induction entries with
  | nil => rfl
  | cons entry rest ih => exact congrArg (entry.1 :: ·) ih

theorem get?_relabel (key : String) :
    get? (relabelEntries relabeling entries) key = (get? entries key).map (Value.relabel relabeling) := by
  induction entries with
  | nil => rfl
  | cons entry rest ih =>
      unfold get? at ih ⊢
      rw [relabelEntries, List.lookup_cons, List.lookup_cons]
      cases key == entry.1 with
      | true => rfl
      | false => exact ih

theorem insert_relabel (key : String) (value : Value) :
    insert key (value.relabel relabeling) (relabelEntries relabeling entries) =
      relabelEntries relabeling (insert key value entries) := by
  induction entries with
  | nil => rfl
  | cons entry rest ih =>
      rw [relabelEntries, insert, insert]
      split
      · rfl
      · split
        · rfl
        · rw [relabelEntries, ih]

end Entries

namespace Value

variable (value left right : Value)

theorem truthy_relabel : (value.relabel relabeling).truthy = value.truthy := by
  cases value with
  | list items => cases items <;> rfl
  | map entries => cases entries <;> rfl
  | _ => rfl

mutual

theorem shown_relabel (inside : Bool) :
    (value : Value) → (value.relabel relabeling).shown inside = value.shown inside
  | .number _ | .boolean _ | .string _ | .none | .function _ => rfl
  | .list items => by rw [relabel, shown, shown, shownItems_relabel items]
  | .map entries => by rw [relabel, shown, shown, shownEntries_relabel entries]
termination_by structural value => value

theorem shownItems_relabel :
    (items : List Value) → shownItems (relabelItems relabeling items) = shownItems items
  | [] => rfl
  | item :: rest => by
      rw [relabelItems, shownItems, shownItems, shown_relabel true item, shownItems_relabel rest]
termination_by structural items => items

theorem shownEntries_relabel : (entries : List (String × Value)) →
    shownEntries (relabelEntries relabeling entries) = shownEntries entries
  | [] => rfl
  | (key, value) :: rest => by
      rw [relabelEntries, shownEntries, shownEntries, shown_relabel true value,
        shownEntries_relabel rest]
termination_by structural entries => entries

end

theorem display_relabel : (value.relabel relabeling).display = value.display :=
  shown_relabel relabeling false value

theorem map_display_relabel (items : List Value) :
    (relabelItems relabeling items).map display = items.map display := by
  rw [relabelItems_eq_map, List.map_map]
  exact List.map_congr_left fun value _ => value.display_relabel relabeling

mutual

theorem toJson_relabel : (value : Value) → (value.relabel relabeling).toJson = value.toJson
  | .number _ | .boolean _ | .string _ | .none | .function _ => rfl
  | .list items => by rw [relabel, toJson, toJson, itemsToJson_relabel items]
  | .map entries => by rw [relabel, toJson, toJson, entriesToJson_relabel entries]
termination_by structural value => value

theorem itemsToJson_relabel :
    (items : List Value) → itemsToJson (relabelItems relabeling items) = itemsToJson items
  | [] => rfl
  | item :: rest => by
      rw [relabelItems, itemsToJson, itemsToJson, toJson_relabel item, itemsToJson_relabel rest]
termination_by structural items => items

theorem entriesToJson_relabel : (entries : List (String × Value)) →
    entriesToJson (relabelEntries relabeling entries) = entriesToJson entries
  | [] => rfl
  | (_, value) :: rest => by
      rw [relabelEntries, entriesToJson, entriesToJson, toJson_relabel value,
        entriesToJson_relabel rest]
termination_by structural entries => entries

end

mutual

/-- Different functions stay different, and so equal values stay equal and no others become so. -/
theorem equal_relabel :
    (left right : Value) → equal (left.relabel relabeling) (right.relabel relabeling) = equal left right
  | .number _, right | .boolean _, right | .string _, right | .none, right => by
      cases right <;> rfl
  | .list items, right => by
      cases right with
      | list others => rw [relabel, relabel, equal, equal, equalItems_relabel items others]
      | _ => rfl
  | .map entries, right => by
      cases right with
      | map others => rw [relabel, relabel, equal, equal, equalEntries_relabel entries others]
      | _ => rfl
  | .function made, right => by
      cases right with
      | function other =>
          have same : relabeling.apply made.identity = relabeling.apply other.identity ↔
              made.identity = other.identity := relabeling.injective.eq_iff
          simp only [relabel, equal]
          rw [Bool.eq_iff_iff, beq_iff_eq, beq_iff_eq, Function.mk.injEq, same, ← Function.mk.injEq]
      | _ => rfl
termination_by structural left => left

theorem equalItems_relabel : (items others : List Value) →
    equalItems (relabelItems relabeling items) (relabelItems relabeling others) =
      equalItems items others
  | [], [] | [], _ :: _ | _ :: _, [] => rfl
  | item :: rest, other :: more => by
      simp only [relabelItems, equalItems]
      rw [equal_relabel item other, equalItems_relabel rest more]
termination_by structural items => items

theorem equalEntries_relabel : (entries others : List (String × Value)) →
    equalEntries (relabelEntries relabeling entries) (relabelEntries relabeling others) =
      equalEntries entries others
  | [], [] | [], _ :: _ | _ :: _, [] => rfl
  | (_, value) :: rest, (_, other) :: more => by
      simp only [relabelEntries, equalEntries]
      rw [equal_relabel value other, equalEntries_relabel rest more]
termination_by structural entries => entries

end

theorem asNumber_relabel : (value.relabel relabeling).asNumber = value.asNumber := by
  cases value <;> rfl

theorem asString_relabel : (value.relabel relabeling).asString = value.asString := by
  cases value <;> rfl

theorem arithmetic_relabel (operation : Float → Float → Float) :
    arithmetic (left.relabel relabeling) (right.relabel relabeling) operation =
      (arithmetic left right operation).map (relabel relabeling) := by
  unfold arithmetic
  rw [asNumber_relabel, asNumber_relabel]
  cases left.asNumber <;> cases right.asNumber <;> rfl

theorem quotient_relabel (operation : Float → Float → Float) :
    quotient (left.relabel relabeling) (right.relabel relabeling) operation =
      (quotient left right operation).map (relabel relabeling) := by
  unfold quotient
  rw [asNumber_relabel, asNumber_relabel]
  cases left.asNumber with
  | error fault => rfl
  | ok a =>
      cases right.asNumber with
      | error fault => rfl
      | ok b =>
          change (if b == 0 then _ else _) = Except.map _ (if b == 0 then _ else _)
          split <;> rfl

theorem add_relabel :
    (left.relabel relabeling).add (right.relabel relabeling) =
      (left.add right).map (relabel relabeling) := by
  cases left with
  | string text =>
      cases right with
      | string more =>
          simp only [relabel, add]
          cases checkLength _ .concatenatedString <;> rfl
      | _ => rfl
  | list items =>
      cases right with
      | list others =>
          simp only [relabel, add, length_relabelItems]
          cases checkLength _ .concatenatedList with
          | error fault => rfl
          | ok _ =>
              change Except.ok (list _) = Except.ok (list _)
              simp only [relabelItems_eq_map, List.map_append]
      | _ => rfl
  | _ => cases right <;> rfl

theorem repeated_relabel (text : String) (count : Float) :
    (repeated text count).map (relabel relabeling) = repeated text count := by
  unfold repeated repeatedTimes
  generalize (if 0 < count then Number.toUnsigned64 count else 0) = times
  split
  · rfl
  · cases checkLength _ .repeated <;> rfl

theorem multiply_relabel :
    (left.relabel relabeling).multiply (right.relabel relabeling) =
      (left.multiply right).map (relabel relabeling) := by
  cases left with
  | string text =>
      cases right with
      | number count => exact (repeated_relabel relabeling text count).symm
      | _ => rfl
  | number count =>
      cases right with
      | string text => exact (repeated_relabel relabeling text count).symm
      | _ => rfl
  | _ => cases right <;> rfl

theorem ordered_relabel (strings : String → String → Bool) (numbers : Float → Float → Bool) :
    ordered (left.relabel relabeling) (right.relabel relabeling) strings numbers =
      (ordered left right strings numbers).map (relabel relabeling) := by
  cases left <;> cases right <;> rfl

/-- An operator gives for relabeled operands what it gives for the operands, relabeled. -/
theorem binary_relabel (op : Code.Binary) :
    binary op (left.relabel relabeling) (right.relabel relabeling) =
      (binary op left right).map (relabel relabeling) := by
  cases op with
  | add => exact add_relabel relabeling left right
  | multiply => exact multiply_relabel relabeling left right
  | subtract => exact arithmetic_relabel relabeling left right _
  | divide | modulo => exact quotient_relabel relabeling left right _
  | greater | less | greaterOrEqual | lessOrEqual => exact ordered_relabel relabeling left right _ _
  | equal | unequal =>
      simp only [binary, equal_relabel]
      rfl
  | and | or =>
      simp only [binary, truthy_relabel]
      rfl

theorem unary_relabel (op : Code.Unary) :
    (value.relabel relabeling).unary op = (value.unary op).map (relabel relabeling) := by
  cases op with
  | negation => cases value <;> rfl
  | logicalNot =>
      simp only [unary, truthy_relabel]
      rfl

theorem select_relabel {α : Type} (items : List α) (index : Value) :
    select items (index.relabel relabeling) = select items index := by
  unfold select
  rw [asNumber_relabel]

theorem pick_map {α β : Type} (change : α → β) (items : List α) (index : Int) :
    pick (items.map change) index = (pick items index).map change := by
  unfold pick
  rw [List.length_map]
  cases position index items.length with
  | error fault => rfl
  | ok place =>
      simp only [bind, Except.bind, List.getElem?_map]
      cases items[place]? <;> rfl

theorem select_map {α β : Type} (change : α → β) (items : List α) (index : Value) :
    select (items.map change) index = (select items index).map change := by
  unfold select
  cases index.asNumber with
  | error fault => rfl
  | ok n =>
      simp only [bind, Except.bind]
      split
      · rfl
      · exact pick_map change items _

theorem atIndex_relabel :
    (left.relabel relabeling).atIndex (right.relabel relabeling) =
      (left.atIndex right).map (relabel relabeling) := by
  cases left with
  | list items =>
      change select (relabelItems relabeling items) (right.relabel relabeling) = _
      rw [select_relabel, relabelItems_eq_map, select_map]
      rfl
  | string text =>
      change (do return string (String.singleton (← select text.toList (right.relabel relabeling)))) =
        _
      rw [select_relabel]
      change _ = Except.map _ (do return string (String.singleton (← select text.toList right)))
      cases select text.toList right <;> rfl
  | map entries =>
      cases right with
      | string key =>
          simp only [relabel, atIndex, Entries.get?_relabel]
          cases Entries.get? entries key <;> rfl
      | _ => rfl
  | _ => rfl

/-- There are no functions in a list of texts. -/
theorem relabelItems_strings {α : Type} (text : α → String) (items : List α) :
    relabelItems relabeling (items.map fun item => string (text item)) =
      items.map fun item => string (text item) := by
  rw [relabelItems_eq_map, List.map_map]
  rfl

theorem iterate_relabel :
    (value.relabel relabeling).iterate = value.iterate.map (relabelItems relabeling) := by
  cases value with
  | map entries =>
      have keys := relabelItems_strings relabeling (fun key => key) (Entries.keys entries)
      simp only [relabel, iterate, Entries.keys_relabel]
      exact congrArg Except.ok keys.symm
  | string text => exact congrArg Except.ok (relabelItems_strings relabeling _ text.toList).symm
  | _ => rfl

end Value

namespace Builtin

variable (builtin : Builtin) (arguments : List Value)

theorem printed_relabel :
    builtin.printed (relabelItems relabeling arguments) = builtin.printed arguments := by
  cases builtin with
  | print => simp only [printed, Value.map_display_relabel]
  | _ => rfl

theorem asInteger_relabel (value : Value) :
    asInteger (value.relabel relabeling) = asInteger value := by
  unfold asInteger
  rw [Value.asNumber_relabel]

theorem rangeOf_relabel (first stop : Int) :
    (rangeOf first stop).map (Value.relabel relabeling) = rangeOf first stop := by
  unfold rangeOf
  cases Value.checkLength (some (span first stop)) .range with
  | error fault => rfl
  | ok _ =>
      change Except.ok (Value.list _) = Except.ok (Value.list _)
      rw [relabelItems_eq_map, List.map_map]
      rfl

/-- A function gives for relabeled arguments what it gives for the arguments, relabeled. -/
theorem result_relabel :
    builtin.result (relabelItems relabeling arguments) =
      (builtin.result arguments).map (Value.relabel relabeling) := by
  cases builtin with
  | print => rfl
  | len =>
      match arguments with
      | [] | _ :: _ :: _ => rfl
      | [value] =>
          cases value with
          | list items => simp [relabelItems, Value.relabel, result]; rfl
          | map entries => simp [relabelItems, Value.relabel, result]; rfl
          | _ => rfl
  | str =>
      match arguments with
      | [] | _ :: _ :: _ => rfl
      | [value] =>
          simp only [relabelItems, result, Value.display_relabel]
          rfl
  | range =>
      match arguments with
      | [] | _ :: _ :: _ :: _ => rfl
      | [stop] =>
          simp only [relabelItems, result, asInteger_relabel]
          cases asInteger stop with
          | error fault => rfl
          | ok last => exact (rangeOf_relabel relabeling 0 last).symm
      | [first, stop] =>
          simp only [relabelItems, result, asInteger_relabel]
          cases asInteger first with
          | error fault => rfl
          | ok start =>
              cases asInteger stop with
              | error fault => rfl
              | ok last => exact (rangeOf_relabel relabeling start last).symm
  | join =>
      match arguments with
      | [] => rfl
      | value :: rest =>
          cases value with
          | list items =>
              have shown := Value.map_display_relabel relabeling items
              cases rest with
              | nil =>
                  change Except.ok (Value.string _) = Except.ok (Value.string _)
                  rw [shown]
              | cons separator more =>
                  simp only [relabelItems, Value.relabel, result, Value.asString_relabel, shown]
                  cases separator.asString <;> rfl
          | _ =>
              cases rest with
              | nil => rfl
              | cons separator more =>
                  simp only [relabelItems, Value.relabel, result, Value.asString_relabel]
                  cases separator.asString <;> rfl
  | keys =>
      match arguments with
      | [] | _ :: _ :: _ => rfl
      | [value] =>
          cases value with
          | map entries =>
              have keys := Value.relabelItems_strings relabeling (fun key => key)
                (Entries.keys entries)
              simp only [relabelItems, Value.relabel, result, Entries.keys_relabel]
              exact congrArg (fun items => Except.ok (Value.list items)) keys.symm
          | _ => rfl
  | upper | lower =>
      match arguments with
      | [] | _ :: _ :: _ => rfl
      | [value] =>
          simp only [relabelItems, result, Value.asString_relabel]
          cases value.asString <;> rfl
  | get =>
      match arguments with
      | [] | [_] => rfl
      | target :: key :: rest =>
          cases target with
          | map entries =>
              simp only [relabelItems, Value.relabel, result, Value.asString_relabel,
                Entries.get?_relabel]
              cases key.asString with
              | error fault => rfl
              | ok text =>
                  simp only [bind, Except.bind]
                  cases Entries.get? entries text with
                  | some value => rfl
                  | none => cases rest <;> rfl
          | _ => rfl

theorem apply_relabel :
    builtin.apply (relabelItems relabeling arguments) =
      (builtin.apply arguments).map (Value.relabel relabeling) := by
  unfold apply checkArity
  rw [length_relabelItems, result_relabel]
  cases builtin.bounds? with
  | none => rfl
  | some bounds =>
      dsimp only
      split <;> rfl

end Builtin

end LiteratePages
