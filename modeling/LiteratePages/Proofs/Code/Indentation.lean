import LiteratePages.Proofs.Code.LineBreaks
import LiteratePages.Proofs.Code.Names
import LiteratePages.Proofs.Run.Unplacing
import LiteratePages.Proofs.Text.Margin

/-!
Code without its margin. A line starts with no token under way as long as no line feed is escaped,
so the blanks in front of it are passed over and the code has the same tokens without them, at other
places.
-/
namespace LiteratePages.Code

/-- The line is `result` behind blanks. -/
def Indented (line result : List Char) : Prop :=
  ∃ start, Text.allBlank start = true ∧ line = start ++ result

namespace LexState

variable {state after : LexState} {base : Nat} {c : Char}

/-- No blank lies among the characters of ASCII that show. -/
theorem toNat_of_isBlank (blank : Text.isBlank c = true) : c.toNat ≤ 0x20 ∨ 0x7f < c.toNat := by
  simp only [Text.isBlank, Bool.or_eq_true, Bool.and_eq_true, beq_iff_eq, decide_eq_true_eq,
    UInt32.le_iff_toNat_le, ← UInt32.toNat_inj, UInt32.reduceToNat, Char.toNat_val] at blank
  omega

/-- Between tokens the blanks that are read at all are passed over. -/
theorem start_blank (blank : Text.isBlank c = true) (other : c ≠ '\n')
    (started : state.start c = .ok after) : after = state.advance c .between := by
  have apart := toNat_of_isBlank blank
  have digit : ¬ c.isDigit = true := by
    intro digit
    have range := Char.isDigit_iff_toNat.mp digit
    change 0x30 ≤ c.toNat ∧ c.toNat ≤ 0x39 at range
    omega
  have name : ¬ startsName c = true := by
    intro starts
    have range := toNat_of_startsName starts
    omega
  have shows : ∀ mark : Char, 0x20 < mark.toNat → mark.toNat ≤ 0x7f → c ≠ mark := by
    intro mark low high same
    rw [same] at apart
    omega
  have number : c ≠ '#' := shows '#' (by decide) (by decide)
  have quote : ¬ isQuote c = true := by
    simp [isQuote, shows '"' (by decide) (by decide), shows '\'' (by decide) (by decide)]
  have relation : ¬ (c = '=' ∨ c = '!' ∨ c = '>' ∨ c = '<') := by
    simp [shows '=' (by decide) (by decide), shows '!' (by decide) (by decide),
      shows '>' (by decide) (by decide), shows '<' (by decide) (by decide)]
  have pair : ¬ (c = '&' ∨ c = '|') := by
    simp [shows '&' (by decide) (by decide), shows '|' (by decide) (by decide)]
  have single : charToken? c = none := by
    cases found : charToken? c with
    | none => rfl
    | some token =>
        unfold charToken? at found
        split at found <;> first | exact absurd blank (by decide) | cases found
  rw [LexState.start, if_neg other, if_neg number, if_neg quote, if_neg digit, if_neg name,
    if_neg relation, if_neg pair, single] at started
  split at started
  · exact (Except.ok.inj started).symm
  · cases started

theorem run_blanks {blanks : List Char} {before : List Located} {depth place : Nat}
    (blank : Text.allBlank blanks = true) (bare : Text.Bare blanks)
    (ran : run base ⟨before, depth, place, .between⟩ blanks = .ok after) :
    after = ⟨before, depth, place + Text.byteLength blanks, .between⟩ := by
  induction blanks generalizing place with
  | nil =>
      cases ran
      rfl
  | cons c rest ih =>
      obtain ⟨reached, stepped, later⟩ := foldlM_cons_eq_ok.mp ran
      obtain ⟨first, blank⟩ := Bool.and_eq_true_iff.mp blank
      obtain rfl := start_blank first (List.ne_of_not_mem_cons bare).symm stepped
      rw [ih blank (List.not_mem_of_not_mem_cons bare) later, Text.byteLength_cons, Nat.add_assoc]

/-- A line feed that a backslash does not escape ends the token under way. -/
theorem finish_of_newline {line : List Char} {depth : Nat}
    (ran : run 0 ⟨[], depth, 0, .between⟩ line = .ok state)
    (stepped : state.step base '\n' = .ok after) (unescaped : line.getLast? ≠ some '\\') :
    ∃ tokens, state.finish = .ok tokens := by
  have reads := reads_of_run [] ran
  have valid := reads.valid
  obtain ⟨before, passed, _⟩ := reads.under
  obtain ⟨tokens, depth, place, scan⟩ := state
  cases scan with
  | between | comment | word | digits | fraction | relation => exact ⟨_, rfl⟩
  | point => cases stepped
  | pair start first =>
      rcases valid with rfl | rfl <;> cases stepped
  | quoted format start quote opened escaped body =>
      obtain ⟨marks, _, _, escapes⟩ := valid
      have other : '\n' ≠ quote := by
        rintro rfl
        exact absurd marks (by decide)
      cases escaped with
      | false => simp [LexState.step, other] at stepped
      | true =>
          -- What escapes the line feed is the last character of the line.
          cases body with
          | nil => cases escapes
          | cons c rest =>
              rw [List.reverse_cons, escapedAfter_concat, Bool.and_eq_true, beq_iff_eq] at escapes
              obtain rfl := escapes.2
              exact absurd (by simp [passed, Scan.text]) unescaped

end LexState

/-- The tokens of a text that starts with a line are those of the line, the line feed and those of
the other lines. -/
theorem tokensWithin_newline {depth : Nat} {line rest : List Char} {tokens : List Located}
    (read : tokensWithin depth (line ++ '\n' :: rest) = .ok tokens)
    (unescaped : line.getLast? ≠ some '\\') :
    ∃ state settled others, LexState.run 0 ⟨[], depth, 0, .between⟩ line = .ok state ∧
      state.finish = .ok settled ∧ tokensWithin state.depth rest = .ok others ∧
      tokens = settled ++ lineBreak state.depth (Text.byteLength line) ++
        others.map (Located.relocate (· + (Text.byteLength line + 1))) := by
  obtain ⟨final, ran, ended⟩ := bind_eq_ok.mp read
  obtain ⟨state, here, there⟩ := foldlM_append_eq_ok.mp ran
  obtain ⟨next, stepped, later⟩ := foldlM_cons_eq_ok.mp there
  obtain ⟨settled, settles⟩ := LexState.finish_of_newline here stepped unescaped
  rw [LexState.step_newline settles] at stepped
  cases stepped
  have readLater : (LexState.run 0 _ rest).bind LexState.finish = .ok tokens :=
    bind_eq_ok.mpr ⟨final, later, ended⟩
  obtain ⟨others, alone, parts⟩ := LexState.tokens_of_idle rfl readLater
  refine ⟨state, settled, others, here, settles, alone, ?_⟩
  have place : state.place = Text.byteLength line := by
    rw [LexState.run_place here, Nat.zero_add]
  have reversed : (lineBreak state.depth state.place).reverse =
      lineBreak state.depth state.place := by
    unfold lineBreak
    split <;> rfl
  rw [parts, List.reverse_append, List.reverse_reverse, reversed, place]

theorem tokensWithin_blanks {depth : Nat} {start text : List Char} {tokens : List Located}
    (blank : Text.allBlank start = true) (bare : Text.Bare start)
    (read : tokensWithin depth (start ++ text) = .ok tokens) :
    ∃ others, tokensWithin depth text = .ok others ∧
      tokens = others.map (Located.relocate (· + Text.byteLength start)) := by
  obtain ⟨final, ran, ended⟩ := bind_eq_ok.mp read
  obtain ⟨state, here, there⟩ := foldlM_append_eq_ok.mp ran
  obtain rfl := LexState.run_blanks blank bare here
  have readLater : (LexState.run 0 _ text).bind LexState.finish = .ok tokens :=
    bind_eq_ok.mpr ⟨final, there, ended⟩
  obtain ⟨others, alone, parts⟩ := LexState.tokens_of_idle rfl readLater
  refine ⟨others, alone, ?_⟩
  rw [parts, Nat.zero_add]
  rfl

theorem map_unplace_map (bytes : Nat) (tokens : List Located) :
    (tokens.map (Located.relocate (· + bytes))).map (Located.relocate unplace) =
      tokens.map (Located.relocate unplace) := by
  rw [List.map_map]
  exact List.map_congr_left fun next _ => next.relocate_relocate (· + bytes) unplace

/-- Lines without blanks in front of them have the same tokens, up to places. -/
theorem tokensWithin_indented {depth : Nat} {lines results : List (List Char)}
    {tokens : List Located} (indented : List.Forall₂ Indented lines results)
    (bare : ∀ line ∈ lines, Text.Bare line)
    (unescaped : ¬ ['\\', '\n'] <:+: Text.joinLines lines)
    (read : tokensWithin depth (Text.joinLines lines) = .ok tokens) :
    ∃ others, tokensWithin depth (Text.joinLines results) = .ok others ∧
      others.map (Located.relocate unplace) = tokens.map (Located.relocate unplace) := by
  induction indented generalizing depth tokens with
  | nil => exact ⟨tokens, read, rfl⟩
  | @cons line result more others first rest ih =>
      obtain ⟨start, blank, rfl⟩ := first
      have whole := bare _ List.mem_cons_self
      obtain ⟨startBare, _⟩ := Text.bare_append.mp whole
      cases rest with
      | nil =>
          have single : ∀ line, Text.joinLines [line] = line := fun line => by simp [Text.joinLines]
          rw [single] at read ⊢
          obtain ⟨tokens, alone, rfl⟩ := tokensWithin_blanks blank startBare read
          exact ⟨tokens, alone, (map_unplace_map _ tokens).symm⟩
      | @cons second other more others indentedSecond rest =>
          rw [Text.joinLines_cons_cons, List.append_assoc] at read
          rw [Text.joinLines_cons_cons] at unescaped ⊢
          obtain ⟨tokens, alone, rfl⟩ := tokensWithin_blanks blank startBare read
          have plain : result.getLast? ≠ some '\\' := by
            intro final
            obtain ⟨before, rfl⟩ := List.getLast?_eq_some_iff.mp final
            exact unescaped ⟨start ++ before, Text.joinLines (second :: more), by simp⟩
          have later : ¬ ['\\', '\n'] <:+: Text.joinLines (second :: more) := fun inside =>
            unescaped (inside.trans ((List.suffix_cons ..).trans (List.suffix_append ..)).isInfix)
          obtain ⟨state, settled, behind, ran, ended, within, rfl⟩ := tokensWithin_newline alone plain
          obtain ⟨moved, found, alike⟩ :=
            ih (fun line member => bare line (List.mem_cons_of_mem _ member)) later within
          refine ⟨_, tokensWithin_append_newline ran ended found, ?_⟩
          rw [map_unplace_map]
          simp only [List.map_append, map_unplace_map, alike]

/-- A program is the same without the margin of its text, up to places, and it does the same. -/
theorem parse_dedent {text : String} {program : Program}
    (accepted : Program.parse text = .ok program)
    (unescaped : ¬ ['\\', '\n'] <:+: text.toList) :
    ∃ dedented, Program.parse (dedent text) = .ok dedented ∧
      dedented.unplaced = program.unplaced ∧ ∀ host scope,
        (interpret host (dedent text) scope).unplaced = (interpret host text scope).unplaced := by
  obtain ⟨tokens, lexed, complete⟩ := ofChars_eq_ok_iff.mp accepted
  have indented : List.Forall₂ Indented (Text.splitLines text.toList)
      (Text.splitLines (Text.dedent text.toList)) := by
    rw [Text.splitLines_dedent]
    have dedents := Text.dedents_margin (Text.splitLines text.toList)
    refine dedents.split.imp fun line result split => ?_
    split at split
    · exact ⟨line, ‹_›, by rw [split, List.append_nil]⟩
    · exact ⟨_, dedents.blank, split⟩
  have read : tokensWithin 0 (Text.joinLines (Text.splitLines text.toList)) = .ok tokens := by
    rwa [Text.joinLines_splitLines]
  rw [← Text.joinLines_splitLines text.toList] at unescaped
  obtain ⟨others, found, alike⟩ := tokensWithin_indented indented
    (fun line => Text.bare_of_mem_splitLines) unescaped read
  rw [Text.joinLines_splitLines] at found
  have twins : (ParseState.initial.complete? others).map Program.unplaced =
      (ParseState.initial.complete? tokens).map Program.unplaced :=
    ParseState.complete?_alike rfl alike
  rw [complete] at twins
  obtain ⟨dedented, completed, same⟩ := Option.map_eq_some_iff.mp twins
  have parsed : Program.parse (dedent text) = .ok dedented := by
    rw [Program.parse, dedent, String.toList_ofList]
    exact ofChars_eq_ok_iff.mpr ⟨others, found, completed⟩
  refine ⟨dedented, parsed, same, fun host scope => ?_⟩
  rw [interpret_unplaced parsed, interpret_unplaced accepted, same]

/-- A format string, a comment and a block on lines that are set in. -/
theorem parse_dedent_block : ∃ program dedented,
    Program.parse "\n    if a \x7b # b\n      print(f\"\x7ba\x7d \\n\")\n \t\n    \x7d\n  " =
      .ok program ∧
    dedent "\n    if a \x7b # b\n      print(f\"\x7ba\x7d \\n\")\n \t\n    \x7d\n  " =
      "\nif a \x7b # b\n  print(f\"\x7ba\x7d \\n\")\n\n\x7d\n" ∧
    Program.parse "\nif a \x7b # b\n  print(f\"\x7ba\x7d \\n\")\n\n\x7d\n" = .ok dedented ∧
    dedented.unplaced = program.unplaced := by
  have lines : dedent
      "\n    if a \x7b # b\n      print(f\"\x7ba\x7d \\n\")\n \t\n    \x7d\n  " =
        "\nif a \x7b # b\n  print(f\"\x7ba\x7d \\n\")\n\n\x7d\n" := by decide +kernel
  obtain ⟨dedented, parsed, same, _⟩ := parse_dedent rfl (by decide +kernel :
    ¬ ['\\', '\n'] <:+:
      "\n    if a \x7b # b\n      print(f\"\x7ba\x7d \\n\")\n \t\n    \x7d\n  ".toList)
  rw [lines] at parsed
  exact ⟨_, dedented, rfl, lines, parsed, same⟩

end LiteratePages.Code
