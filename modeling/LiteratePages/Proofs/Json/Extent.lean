import LiteratePages.Json.Reader

namespace LiteratePages.Json

/-- What may be being read once `c` has been taken: a word stands for no object, and an object is
complete only after a closing brace. -/
def Reading.MayFollow (c : Char) : Reading → Prop
  | .word _ (.object _) => False
  | .done (.object _) => c = '\x7d'
  | _ => True

theorem Numeral.value?_ne_object (n : Numeral) (entries : Entries Json) :
    n.value? ≠ some (.object entries) := by
  unfold Numeral.value?
  dsimp only
  split
  · simp
  · split <;> simp

theorem complete_mayFollow {c : Char} {stack : List Frame} {value : Json}
    (other : ∀ entries, value = .object entries → c = '\x7d') :
    (State.complete stack value).reading.MayFollow c := by
  cases stack with
  | nil =>
      cases value with
      | object entries => exact other entries rfl
      | _ => trivial
  | cons frame rest => cases frame <;> trivial

theorem startValue_mayFollow {stack : List Frame} {c : Char} {next : State}
    (started : startValue stack c = .ok next) : next.reading.MayFollow c := by
  unfold startValue at started
  repeat' split at started
  all_goals cases started
  all_goals trivial

theorem afterValue_mayFollow {stack : List Frame} {c : Char} {next : State}
    (read : afterValue stack c = .ok next) : next.reading.MayFollow c := by
  unfold afterValue at read
  repeat' split at read
  all_goals cases read
  all_goals first
    | trivial
    | exact complete_mayFollow fun _ _ => ‹c = '\x7d'›
    | exact complete_mayFollow nofun

theorem afterHex_mayFollow {use : StringUse} {chars : List Char} {stack : List Frame}
    {half : Option Nat} {unit : Nat} {next : State} (c : Char)
    (read : afterHex use chars stack half unit = .ok next) : next.reading.MayFollow c := by
  unfold afterHex at read
  dsimp only at read
  repeat' split at read
  all_goals cases read
  all_goals trivial

theorem stepString_mayFollow {use : StringUse} {part : StringPart} {chars : List Char}
    {stack : List Frame} {index left : Nat} {c : Char} {next : State}
    (read : stepString use part chars stack index left c = .ok next) :
    next.reading.MayFollow c := by
  unfold stepString at read
  dsimp only at read
  repeat' split at read
  all_goals cases read
  all_goals first
    | trivial
    | exact complete_mayFollow nofun
    | exact afterHex_mayFollow c (by assumption)

/-- The bytes that are left to read matter only to where a fault is noted. -/
theorem stepString_left {use : StringUse} {part : StringPart} {chars : List Char}
    {stack : List Frame} {index left : Nat} {c : Char} {next : State} (other : Nat)
    (read : stepString use part chars stack index left c = .ok next) :
    stepString use part chars stack index other c = .ok next := by
  cases part with
  | hex half start count value =>
      simp only [stepString] at read ⊢
      split at read
      · rwa [if_pos (by assumption)]
      · split at read <;> cases read
  | _ => exact read

theorem step_left {state : State} {index left : Nat} {c : Char} {move : Move} (other : Nat)
    (read : step state index left c = .ok move) : step state index other c = .ok move := by
  obtain ⟨reading, stack⟩ := state
  cases reading with
  | string use part chars =>
      simp only [step] at read ⊢
      cases taken : stepString use part chars stack index left c with
      | error fault =>
          rw [taken] at read
          cases read
      | ok next =>
          rw [taken] at read
          rw [stepString_left other taken]
          exact read
  | _ => exact read

theorem step_mayFollow {state next : State} {index left : Nat} {before c : Char}
    (sound : state.reading.MayFollow before) (read : step state index left c = .ok (.take next)) :
    next.reading.MayFollow c := by
  obtain ⟨reading, stack⟩ := state
  cases reading with
  | word rest value =>
      cases rest with
      | nil => simp [step] at read
      | cons wanted rest =>
          have other : ∀ entries, value ≠ .object entries := by
            rintro entries rfl
            exact sound
          simp only [step] at read
          split at read
          · cases read
            split
            · exact complete_mayFollow fun entries same => absurd same (other entries)
            · cases value with
              | object entries => exact absurd rfl (other entries)
              | _ => trivial
          · cases read
  | string use part chars =>
      simp only [step] at read
      cases taken : stepString use part chars stack index left c with
      | error fault =>
          rw [taken] at read
          cases read
      | ok state =>
          rw [taken] at read
          cases read
          exact stepString_mayFollow taken
  | _ =>
      simp only [step] at read
      repeat' split at read
      all_goals cases read
      all_goals first
        | trivial
        | exact sound
        | exact startValue_mayFollow (by assumption)
        | exact afterValue_mayFollow (by assumption)
        | exact complete_mayFollow fun _ _ => ‹c = '\x7d'›
        | exact complete_mayFollow nofun

/-- Reading stops before a character only when the value was complete already, or is a number. -/
theorem step_stop {state : State} {index left : Nat} {c : Char} {entries : Entries Json}
    (read : step state index left c = .ok (.stop (.object entries))) :
    state.reading = .done (.object entries) := by
  obtain ⟨reading, stack⟩ := state
  cases reading with
  | done value =>
      cases read
      rfl
  | number part numeral =>
      simp only [step] at read
      repeat' split at read
      all_goals cases read
      all_goals
        exact absurd ‹numeral.value? = some (.object entries)› (numeral.value?_ne_object entries)
  | string use part chars =>
      simp only [step] at read
      cases taken : stepString use part chars stack index left c <;> rw [taken] at read <;> cases read
  | _ =>
      simp only [step] at read
      repeat' split at read
      all_goals cases read

theorem atEnd_object {state : State} {entries : Entries Json}
    (ended : atEnd state = .ok (.object entries)) : state.reading = .done (.object entries) := by
  obtain ⟨reading, stack⟩ := state
  cases reading with
  | done value =>
      cases ended
      rfl
  | number part numeral =>
      simp only [atEnd] at ended
      repeat' split at ended
      all_goals cases ended
      all_goals
        exact absurd ‹numeral.value? = some (.object entries)› (numeral.value?_ne_object entries)
  | _ =>
      simp only [atEnd] at ended
      repeat' split at ended
      all_goals cases ended

/-- A complete value ends where it was complete, whatever follows. -/
theorem readFrom_done (value : Json) (stack : List Frame) (index left : Nat) (text : List Char) :
    readFrom ⟨.done value, stack⟩ index left text = .ok (value, index, text) := by
  cases text <;> rfl

theorem readFrom_extent {state : State} {index left stop : Nat} {before : Char}
    {text rest : List Char} {entries : Entries Json} (sound : state.reading.MayFollow before)
    (read : readFrom state index left text = .ok (.object entries, stop, rest)) :
    state.reading = .done (.object entries) ∧ text = rest ∧ index = stop ∨
      ∃ inner, text = inner ++ '\x7d' :: rest ∧ ∀ (other : Nat) (after : List Char),
        readFrom state index other (inner ++ '\x7d' :: after) =
          .ok (.object entries, stop, after) := by
  induction text generalizing state index left before with
  | nil =>
      cases ended : atEnd state with
      | error cause => simp [readFrom, ended] at read
      | ok value =>
          simp only [readFrom, ended, Except.ok.injEq, Prod.mk.injEq] at read
          obtain ⟨rfl, rfl, rfl⟩ := read
          exact .inl ⟨atEnd_object ended, rfl, rfl⟩
  | cons c text ih =>
      cases taken : step state index left c with
      | error fault => simp [readFrom, taken] at read
      | ok move =>
          cases move with
          | stop value =>
              simp only [readFrom, taken, Except.ok.injEq, Prod.mk.injEq] at read
              obtain ⟨rfl, rfl, rfl⟩ := read
              exact .inl ⟨step_stop taken, rfl, rfl⟩
          | take next =>
              simp only [readFrom, taken] at read
              have follows := step_mayFollow sound taken
              rcases ih follows read with ⟨done, rfl, rfl⟩ | ⟨inner, rfl, again⟩
              · rw [done] at follows
                cases follows
                refine .inr ⟨[], rfl, fun other after => ?_⟩
                obtain ⟨reading, stack⟩ := next
                cases done
                simp only [List.nil_append, readFrom, step_left other taken, readFrom_done]
              · refine .inr ⟨c :: inner, rfl, fun other after => ?_⟩
                simp only [List.cons_append, readFrom, step_left other taken, again]

theorem dropWhile_append_cons {test : Char → Bool} {c : Char} (first rest : List Char)
    (stays : test c = false) :
    ((first ++ c :: rest).dropWhile test).head? = ((first ++ [c]).dropWhile test).head? := by
  induction first with
  | nil => simp [stays]
  | cons d first ih =>
      simp only [List.cons_append, List.dropWhile_cons]
      split
      · exact ih
      · rfl

/-- An object that a text starts with ends with a closing brace, and is the same before any other
continuation of the text. -/
theorem readObject_extent {text rest : List Char} {metadata : Metadata} {stop : Nat}
    (read : readObject text = .ok (metadata, stop, rest)) :
    ∃ inner, text = inner ++ '\x7d' :: rest ∧ ∀ after : List Char,
      readObject (inner ++ '\x7d' :: after) = .ok (metadata, stop, after) := by
  simp only [readObject] at read
  split at read
  · cases read
  · rename_i noList
    cases found : readFrom ⟨.value, []⟩ 0 (Text.byteLength text) text with
    | error fault =>
        rw [found] at read
        cases read
    | ok answer =>
        obtain ⟨value, index, left⟩ := answer
        rw [found] at read
        cases value with
        | object entries =>
            cases read
            have sound : (State.mk .value []).reading.MayFollow ' ' := trivial
            rcases readFrom_extent sound found with ⟨done, _⟩ | ⟨inner, rfl, again⟩
            · cases done
            · have brace : isSpace '\x7d' = false := by decide
              refine ⟨inner, rfl, fun after => ?_⟩
              rw [dropWhile_append_cons inner rest brace] at noList
              simp only [readObject, again, dropWhile_append_cons inner after brace, if_neg noList]
        | _ => cases read

end LiteratePages.Json
