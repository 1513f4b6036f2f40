import LiteratePages.Run.Value
import Mathlib.Data.List.Infix

/-!
What a displayed container says about its value. Strings are escaped, so they cannot be taken for
what stands around them; keys are not, and a key that holds what keys end with can. Where no key
does, containers without numbers and functions are displayed alike only if they are equal.
-/
namespace LiteratePages

/-- What stands between a key and its value. -/
def keyEnd : List Char := ['"', ':', ' ']

mutual

/-- Values without numbers and functions, no key of which holds what keys end with. -/
def Value.Legible : Value → Prop
  | .none | .boolean _ | .string _ => True
  | .list items => LegibleItems items
  | .map entries => LegibleEntries entries
  | .number _ | .function _ => False
termination_by structural value => value

def LegibleItems : List Value → Prop
  | [] => True
  | item :: rest => item.Legible ∧ LegibleItems rest
termination_by structural items => items

def LegibleEntries : List (String × Value) → Prop
  | [] => True
  | (key, value) :: rest => ¬ keyEnd <:+: key.toList ∧ value.Legible ∧ LegibleEntries rest
termination_by structural entries => entries

end

mutual

theorem Value.equal_iff : (a b : Value) → a.Legible → (a.equal b = true ↔ a = b)
  | .none, b, _ => by cases b <;> simp [Value.equal]
  | .boolean _, b, _ => by cases b <;> simp [Value.equal]
  | .string _, b, _ => by cases b <;> simp [Value.equal]
  | .list items, b, legible => by
      cases b with
      | list others => simp [Value.equal, equalItems_iff items others legible]
      | _ => simp [Value.equal]
  | .map entries, b, legible => by
      cases b with
      | map others => simp [Value.equal, equalEntries_iff entries others legible]
      | _ => simp [Value.equal]
termination_by structural a => a

theorem equalItems_iff : (items others : List Value) → LegibleItems items →
    (Value.equalItems items others = true ↔ items = others)
  | [], others, _ => by cases others <;> simp [Value.equalItems]
  | item :: rest, others, legible => by
      cases others with
      | nil => simp [Value.equalItems]
      | cons other more =>
          simp [Value.equalItems, item.equal_iff other legible.1,
            equalItems_iff rest more legible.2]
termination_by structural items => items

theorem equalEntries_iff : (entries others : List (String × Value)) → LegibleEntries entries →
    (Value.equalEntries entries others = true ↔ entries = others)
  | [], others, _ => by cases others <;> simp [Value.equalEntries]
  | (key, value) :: rest, others, legible => by
      cases others with
      | nil => simp [Value.equalEntries]
      | cons other more =>
          obtain ⟨name, held⟩ := other
          simp [Value.equalEntries, value.equal_iff held legible.2.1,
            equalEntries_iff rest more legible.2.2]
termination_by structural entries => entries

end

section Texts

/-- Texts with commas between them. -/
def commaText (texts : List String) : List Char := (", ".intercalate texts).toList

/-- What follows a text: nothing, or a comma and the texts behind it. -/
def moreText : List String → List Char
  | [] => []
  | text :: rest => ',' :: ' ' :: commaText (text :: rest)

theorem commaText_cons (text : String) (rest : List String) :
    commaText (text :: rest) = text.toList ++ moreText rest := by
  cases rest with
  | nil => simp [commaText, moreText]
  | cons next rest =>
      rw [commaText, String.intercalate_cons_cons, String.toList_append, String.toList_append,
        List.append_assoc]
      rfl

theorem toList_shown_list (inside : Bool) (items : List Value) (rest : List Char) :
    ((Value.list items).shown inside).toList ++ rest =
      '[' :: (commaText (Value.shownItems items) ++ ']' :: rest) := by
  simp [Value.shown, commaText]

theorem toList_shown_map (inside : Bool) (entries : List (String × Value)) (rest : List Char) :
    ((Value.map entries).shown inside).toList ++ rest =
      '\x7b' :: (commaText (Value.shownEntries entries) ++ '\x7d' :: rest) := by
  simp [Value.shown, commaText]

theorem toList_shown_string (text : String) (rest : List Char) :
    ((Value.string text).shown true).toList ++ rest =
      '"' :: (text.toList.flatMap Value.escapeChar ++ '"' :: rest) := by
  simp [Value.shown, Value.escape]

theorem commaText_items_nil (rest : List Char) :
    commaText (Value.shownItems []) ++ rest = rest := by
  simp [Value.shownItems, commaText]

theorem commaText_entries_nil (rest : List Char) :
    commaText (Value.shownEntries []) ++ rest = rest := by
  simp [Value.shownEntries, commaText]

theorem commaText_items_cons (item : Value) (others : List Value) (rest : List Char) :
    commaText (Value.shownItems (item :: others)) ++ rest =
      (item.shown true).toList ++ (moreText (Value.shownItems others) ++ rest) := by
  rw [Value.shownItems, commaText_cons, List.append_assoc]

theorem commaText_entries_cons (key : String) (value : Value) (others : List (String × Value))
    (rest : List Char) :
    commaText (Value.shownEntries ((key, value) :: others)) ++ rest =
      '"' :: (key.toList ++ (keyEnd ++
        ((value.shown true).toList ++ (moreText (Value.shownEntries others) ++ rest)))) := by
  rw [Value.shownEntries, commaText_cons]
  simp [keyEnd]

/-- What follows a text tells whether it is the last. -/
theorem commaText_eq_of_moreText {texts others : List String} {mark : Char} {left right : List Char}
    (noComma : mark ≠ ',')
    (same : moreText texts ++ mark :: left = moreText others ++ mark :: right) :
    commaText texts ++ mark :: left = commaText others ++ mark :: right := by
  cases texts with
  | nil =>
      cases others with
      | nil => exact same
      | cons other more => exact absurd (List.cons.inj same).1 noComma
  | cons text rest =>
      cases others with
      | nil => exact absurd (List.cons.inj same).1.symm noComma
      | cons other more => exact (List.cons.inj (List.cons.inj same).2).2

end Texts

section Strings

namespace Value

theorem escapeChar_eq (c : Char) :
    c ≠ '\\' ∧ c ≠ '"' ∧ escapeChar c = [c] ∨ (c = '\\' ∨ c = '"') ∧ escapeChar c = ['\\', c] := by
  unfold escapeChar
  split
  · rename_i same
    exact .inr ⟨.inl same, by rw [same]⟩
  split
  · rename_i same
    exact .inr ⟨.inr same, by rw [same]⟩
  · exact .inl ⟨‹_›, ‹_›, rfl⟩

theorem escapeChar_append_inj {c d : Char} {left right : List Char}
    (same : escapeChar c ++ left = escapeChar d ++ right) : c = d ∧ left = right := by
  rcases escapeChar_eq c with ⟨plain, _, first⟩ | ⟨_, first⟩ <;>
    rcases escapeChar_eq d with ⟨other, _, second⟩ | ⟨_, second⟩ <;>
    simp only [first, second, List.cons_append, List.nil_append, List.cons.injEq] at same
  · exact same
  · exact absurd same.1 plain
  · exact absurd same.1.symm other
  · exact same.2

theorem quote_ne_escapeChar_append {c : Char} {left right : List Char} :
    '"' :: left ≠ escapeChar c ++ right := by
  intro same
  rcases escapeChar_eq c with ⟨_, unquoted, shown⟩ | ⟨_, shown⟩ <;>
    rw [shown, List.cons_append, List.cons.injEq] at same
  · exact unquoted same.1.symm
  · exact absurd same.1 (by decide)

end Value

/-- Escaped text ends at the first quote that is not part of an escape. -/
theorem escaped_append_inj {first second left right : List Char}
    (same : first.flatMap Value.escapeChar ++ '"' :: left =
      second.flatMap Value.escapeChar ++ '"' :: right) : first = second ∧ left = right := by
  induction first generalizing second with
  | nil =>
      cases second with
      | nil => simpa using same
      | cons d second =>
          rw [List.flatMap_cons, List.append_assoc] at same
          exact absurd same Value.quote_ne_escapeChar_append
  | cons c first ih =>
      cases second with
      | nil =>
          rw [List.flatMap_cons, List.append_assoc] at same
          exact absurd same.symm Value.quote_ne_escapeChar_append
      | cons d second =>
          rw [List.flatMap_cons, List.flatMap_cons, List.append_assoc, List.append_assoc] at same
          obtain ⟨rfl, later⟩ := Value.escapeChar_append_inj same
          obtain ⟨rfl, behind⟩ := ih later
          exact ⟨rfl, behind⟩

/-- What keys end with does not overlap with itself. -/
theorem eq_nil_of_keyEnd {more left right : List Char}
    (same : keyEnd ++ left = more ++ (keyEnd ++ right)) (free : ¬ keyEnd <+: more) :
    more = [] := by
  rcases more with _ | ⟨first, _ | ⟨second, _ | ⟨third, more⟩⟩⟩
  · rfl
  · simp [keyEnd] at same
  · simp [keyEnd] at same
  · simp only [keyEnd, List.cons_append, List.nil_append, List.cons.injEq] at same
    obtain ⟨rfl, rfl, rfl, _⟩ := same
    exact absurd ⟨more, rfl⟩ free

/-- A key that does not hold what keys end with ends where that first stands. -/
theorem key_append_inj {first second left right : List Char} (firstFree : ¬ keyEnd <:+: first)
    (secondFree : ¬ keyEnd <:+: second)
    (same : first ++ (keyEnd ++ left) = second ++ (keyEnd ++ right)) :
    first = second ∧ left = right := by
  rcases List.append_eq_append_iff.mp same with ⟨more, rfl, rest⟩ | ⟨more, rfl, rest⟩
  · have none := eq_nil_of_keyEnd rest fun starts =>
      secondFree (starts.isInfix.trans (List.suffix_append ..).isInfix)
    subst none
    exact ⟨(List.append_nil _).symm, List.append_cancel_left rest⟩
  · have none := eq_nil_of_keyEnd rest fun starts =>
      firstFree (starts.isInfix.trans (List.suffix_append ..).isInfix)
    subst none
    exact ⟨List.append_nil _, (List.append_cancel_left rest).symm⟩

end Strings

namespace Value

/-- The character that the text of a value inside of a container starts with. -/
def initial : Value → Char
  | .none => 'n'
  | .boolean value => if value then 't' else 'f'
  | .string _ => '"'
  | .list _ => '['
  | .map _ => '\x7b'
  | .number _ | .function _ => '<'

variable {a b : Value} {left right : List Char}

theorem exists_shown_eq_cons (legible : a.Legible) :
    ∃ rest, (a.shown true).toList = a.initial :: rest := by
  cases a with
  | none => exact ⟨_, rfl⟩
  | boolean value => cases value <;> exact ⟨_, rfl⟩
  | string text => exact ⟨_, (List.append_nil _).symm.trans (toList_shown_string text [])⟩
  | list items => exact ⟨_, (List.append_nil _).symm.trans (toList_shown_list true items [])⟩
  | map entries => exact ⟨_, (List.append_nil _).symm.trans (toList_shown_map true entries [])⟩
  | number value => exact legible.elim
  | function made => exact legible.elim

theorem initial_eq_of_shown (legible : a.Legible) (legibleOther : b.Legible)
    (same : (a.shown true).toList ++ left = (b.shown true).toList ++ right) :
    a.initial = b.initial := by
  obtain ⟨_, first⟩ := exists_shown_eq_cons legible
  obtain ⟨_, second⟩ := exists_shown_eq_cons legibleOther
  rw [first, second] at same
  exact (List.cons.inj same).1

/-- No text of a value starts as a list ends. -/
theorem shown_append_ne (legible : a.Legible) : (a.shown true).toList ++ left ≠ ']' :: right := by
  intro same
  obtain ⟨_, first⟩ := exists_shown_eq_cons legible
  rw [first] at same
  have mark : a.initial = ']' := (List.cons.inj same).1
  cases a with
  | boolean value => cases value <;> simp [initial] at mark
  | _ => simp [initial] at mark

end Value

mutual

/-- The text of a value inside of a container says which value it is, and where it ends. -/
theorem Value.shown_append_inj : (a b : Value) → a.Legible → b.Legible →
    ∀ {left right : List Char},
      (a.shown true).toList ++ left = (b.shown true).toList ++ right → a = b ∧ left = right
  | .none, b, legible, legibleOther => by
      intro same
      have mark := Value.initial_eq_of_shown legible legibleOther same
      cases b with
      | none => exact ⟨rfl, List.append_cancel_left same⟩
      | boolean other => cases other <;> simp [Value.initial] at mark
      | _ => simp [Value.initial] at mark
  | .boolean value, b, legible, legibleOther => by
      intro same
      have mark := Value.initial_eq_of_shown legible legibleOther same
      cases b with
      | boolean other =>
          obtain rfl : value = other := by
            cases value <;> cases other <;> simp [Value.initial] at mark ⊢
          exact ⟨rfl, List.append_cancel_left same⟩
      | _ => cases value <;> simp [Value.initial] at mark
  | .string text, b, legible, legibleOther => by
      intro same
      have mark := Value.initial_eq_of_shown legible legibleOther same
      cases b with
      | string other =>
          rw [toList_shown_string, toList_shown_string] at same
          obtain ⟨chars, rest⟩ := escaped_append_inj (List.cons.inj same).2
          exact ⟨congrArg Value.string (String.toList_injective chars), rest⟩
      | boolean other => cases other <;> simp [Value.initial] at mark
      | _ => simp [Value.initial] at mark
  | .list items, b, legible, legibleOther => by
      intro same
      have mark := Value.initial_eq_of_shown legible legibleOther same
      cases b with
      | list others =>
          rw [toList_shown_list, toList_shown_list] at same
          obtain ⟨rfl, rest⟩ :=
            shownItems_append_inj items others legible legibleOther (List.cons.inj same).2
          exact ⟨rfl, rest⟩
      | boolean other => cases other <;> simp [Value.initial] at mark
      | _ => simp [Value.initial] at mark
  | .map entries, b, legible, legibleOther => by
      intro same
      have mark := Value.initial_eq_of_shown legible legibleOther same
      cases b with
      | map others =>
          rw [toList_shown_map, toList_shown_map] at same
          obtain ⟨rfl, rest⟩ :=
            shownEntries_append_inj entries others legible legibleOther (List.cons.inj same).2
          exact ⟨rfl, rest⟩
      | boolean other => cases other <;> simp [Value.initial] at mark
      | _ => simp [Value.initial] at mark
  | .number _, _, legible, _ => legible.elim
  | .function _, _, legible, _ => legible.elim
termination_by structural a => a

theorem shownItems_append_inj : (items others : List Value) → LegibleItems items →
    LegibleItems others → ∀ {left right : List Char},
      commaText (Value.shownItems items) ++ ']' :: left =
        commaText (Value.shownItems others) ++ ']' :: right → items = others ∧ left = right
  | [], [], _, _, left, right, same => by
      rw [commaText_items_nil, commaText_items_nil] at same
      exact ⟨rfl, (List.cons.inj same).2⟩
  | [], other :: more, _, legibleOthers, left, right, same => by
      rw [commaText_items_nil, commaText_items_cons] at same
      exact absurd same.symm (Value.shown_append_ne legibleOthers.1)
  | item :: rest, [], legible, _, left, right, same => by
      rw [commaText_items_cons, commaText_items_nil] at same
      exact absurd same (Value.shown_append_ne legible.1)
  | item :: rest, other :: more, legible, legibleOthers, left, right, same => by
      rw [commaText_items_cons, commaText_items_cons] at same
      obtain ⟨rfl, behind⟩ := item.shown_append_inj other legible.1 legibleOthers.1 same
      obtain ⟨rfl, left⟩ := shownItems_append_inj rest more legible.2 legibleOthers.2
        (commaText_eq_of_moreText (by decide) behind)
      exact ⟨rfl, left⟩
termination_by structural items => items

theorem shownEntries_append_inj : (entries others : List (String × Value)) →
    LegibleEntries entries → LegibleEntries others → ∀ {left right : List Char},
      commaText (Value.shownEntries entries) ++ '\x7d' :: left =
        commaText (Value.shownEntries others) ++ '\x7d' :: right → entries = others ∧ left = right
  | [], [], _, _, left, right, same => by
      rw [commaText_entries_nil, commaText_entries_nil] at same
      exact ⟨rfl, (List.cons.inj same).2⟩
  | [], (name, held) :: more, _, _, left, right, same => by
      rw [commaText_entries_nil, commaText_entries_cons] at same
      exact absurd (List.cons.inj same).1 (by decide)
  | (key, value) :: rest, [], _, _, left, right, same => by
      rw [commaText_entries_cons, commaText_entries_nil] at same
      exact absurd (List.cons.inj same).1 (by decide)
  | (key, value) :: rest, (name, held) :: more, legible, legibleOthers, left, right, same => by
      rw [commaText_entries_cons, commaText_entries_cons] at same
      obtain ⟨chars, values⟩ := key_append_inj legible.1 legibleOthers.1 (List.cons.inj same).2
      obtain rfl := String.toList_injective chars
      obtain ⟨rfl, behind⟩ := value.shown_append_inj held legible.2.1 legibleOthers.2.1 values
      obtain ⟨rfl, left⟩ := shownEntries_append_inj rest more legible.2.2 legibleOthers.2.2
        (commaText_eq_of_moreText (by decide) behind)
      exact ⟨rfl, left⟩
termination_by structural entries => entries

end

namespace Value

def isContainer : Value → Bool
  | .list _ | .map _ => true
  | _ => false

theorem display_of_isContainer {value : Value} (container : value.isContainer = true) :
    value.display = value.shown true := by
  cases value with
  | list items => rfl
  | map entries => rfl
  | _ => cases container

/-- Lists and maps of values without numbers and functions are displayed alike exactly when they
are equal, as long as no key holds what keys end with. -/
theorem display_eq_iff_equal {a b : Value} (container : a.isContainer = true)
    (containerOther : b.isContainer = true) (legible : a.Legible) (legibleOther : b.Legible) :
    a.display = b.display ↔ a.equal b = true := by
  rw [a.equal_iff b legible, display_of_isContainer container,
    display_of_isContainer containerOther]
  constructor
  · intro same
    exact (a.shown_append_inj b legible legibleOther (congrArg (·.toList ++ []) same)).1
  · intro same
    rw [same]

/-- One string that looks like two, behind a key with a quote in it. -/
theorem display_eq_iff_equal_quotes :
    display (.map [("k\"", .list [.string "a\", \"b"])]) ≠
      display (.map [("k\"", .list [.string "a", .string "b"])]) := by
  intro same
  have free : ¬ keyEnd <:+: "k\"".toList := by decide
  have one : Legible (.map [("k\"", .list [.string "a\", \"b"])]) :=
    ⟨free, ⟨trivial, trivial⟩, trivial⟩
  have two : Legible (.map [("k\"", .list [.string "a", .string "b"])]) :=
    ⟨free, ⟨trivial, trivial, trivial⟩, trivial⟩
  have equal := (display_eq_iff_equal rfl rfl one two).mp same
  simp [Value.equal, equalEntries, equalItems] at equal

/-- A key that holds what keys end with, a value and another key. -/
theorem display_of_forged_key :
    display (.map [("a\": none, \"b", .none)]) = display (.map [("a", .none), ("b", .none)]) ∧
      equal (.map [("a\": none, \"b", .none)]) (.map [("a", .none), ("b", .none)]) = false :=
  ⟨by decide +kernel, rfl⟩

end Value

end LiteratePages
