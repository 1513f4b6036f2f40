import LiteratePages.Proofs.Run.Interchange
import LiteratePages.Proofs.Template.Splicing

namespace LiteratePages

/-- Whether a value that has been found is equal to the one expected, if there is any. -/
def Reproduces : Option Value → Option Value → Prop :=
  Option.Rel fun found expected => found.equal expected = true

section Entries

variable {entries : Entries Value} {name : String}

theorem reproduces_get? (held : EntriesHaveJson entries) (name : String) :
    Reproduces ((Entries.get? (Value.entriesToJson entries) name).map Value.ofJson)
      (Entries.get? entries name) := by
  rw [get?_entriesToJson]
  cases found : Entries.get? entries name with
  | none => exact .none
  | some value => exact .some (value.equal_ofJson_toJson (hasJson_of_get? held found))

/-- A page may say more about itself; the keys that it does not mention keep their values. -/
theorem reproduces_expressionScope (held : EntriesHaveJson entries) {own : Metadata}
    (part : name ≠ dataName) (other : name ≠ renderTemplateName)
    (unmentioned : Entries.get? own name = none) :
    Reproduces ((expressionScope (Entries.insertAll (Value.entriesToJson entries) own)).get? name)
      (Entries.get? entries name) := by
  have found := reproduces_get? held name
  rw [expressionScope_get?, if_neg other, Entries.get?_insertAll_of_none unmentioned]
  cases bound : Entries.get? (Value.entriesToJson entries) name with
  | some value => rwa [bound] at found
  | none =>
      rw [bound] at found
      rwa [if_neg part]

theorem reproduces_expressionScope_data (held : EntriesHaveJson entries) :
    Reproduces ((expressionScope (Value.entriesToJson entries)).get? dataName)
      (some ((Entries.get? entries dataName).getD (.map entries))) := by
  rw [expressionScope_get?, if_neg (by decide), get?_entriesToJson]
  cases found : Entries.get? entries dataName with
  | none => exact .some (Value.equal_ofJson_toJson (.map entries) held)
  | some value => exact .some (value.equal_ofJson_toJson (hasJson_of_get? held found))

end Entries

/-- Reading JSON back and writing it again changes nothing, and what JSON can hold comes back equal.
So a template that is given a map has under each key a value equal to the one in the map, and under
the name of all data a map equal to it, unless a key has that name. A literate page may mention keys
of its own, which come first. -/
theorem nested_template_keeps_data :
    (∀ value : Value, (Value.ofJson value.toJson).toJson = value.toJson) ∧
      (∀ value : Value, value.HasJson → (Value.ofJson value.toJson).equal value = true) ∧
      ∀ (path : String) (entries : Entries Value), (Value.map entries).HasJson →
        ∃ data, templateArguments [.string path, .map entries] = .ok (path, data) ∧
          (Value.map entries).toJson = .object data ∧
          Reproduces ((expressionScope data).get? dataName)
            (some ((Entries.get? entries dataName).getD (.map entries))) ∧
          ∀ (own : Metadata) (name : String), name ≠ dataName → name ≠ renderTemplateName →
            Entries.get? own name = none →
            Reproduces ((expressionScope (Entries.insertAll data own)).get? name)
              (Entries.get? entries name) := by
  refine ⟨Value.toJson_ofJson_toJson, Value.equal_ofJson_toJson, ?_⟩
  intro path entries held
  refine ⟨Value.entriesToJson entries, rfl, rfl, reproduces_expressionScope_data held, ?_⟩
  intro own name part other unmentioned
  exact reproduces_expressionScope held part other unmentioned

/-- A negative zero, a half and the first whole number that is no longer written as an integer, next
to a key that the page mentions itself. -/
theorem nested_template_keeps_data_negative_zero :
    let list : Value := .list [.number (-0.0), .number 0.5, .number 1e15, .map [("", .none)]]
    let entries := [("k", list), ("n", .number 3)]
    (Value.ofJson list.toJson).equal list = true ∧
      ∃ data, templateArguments [.string "t", .map entries] = .ok ("t", data) ∧
        Reproduces ((expressionScope (Entries.insertAll data [("n", .null)])).get? "k")
          (some list) := by
  intro list entries
  have zero : (-0.0 : Float).isFinite = true := by decide +kernel
  have half : (0.5 : Float).isFinite = true := by decide +kernel
  have large : (1e15 : Float).isFinite = true := by decide +kernel
  have three : (3 : Float).isFinite = true := by decide +kernel
  have listHeld : list.HasJson := ⟨zero, half, large, ⟨trivial, trivial⟩, trivial⟩
  have held : (Value.map entries).HasJson := ⟨listHeld, three, trivial⟩
  obtain ⟨_, returns, passes⟩ := nested_template_keeps_data
  obtain ⟨data, taken, _, _, found⟩ := passes "t" entries held
  refine ⟨returns list listHeld, data, taken, ?_⟩
  exact found [("n", .null)] "k" (by decide) (by decide) rfl

end LiteratePages
