import LiteratePages.Proofs.Agreement
import LiteratePages.Code.Program

namespace LiteratePages.Code

/-- An English letter or an underscore, and then letters, digits and underscores. -/
def IsName (text : String) : Prop :=
  ∃ first rest, text.toList = first :: rest ∧ (first.isAlpha = true ∨ first = '_') ∧
    ∀ c ∈ rest, Text.isAlphanumeric c = true ∨ c = '_'

/-- Words that look like names and mean something else. -/
def keywords : List String :=
  ["true", "false", "none", "if", "else", "for", "in", "and", "or", "not"]

theorem wordToken_of_notMem {text : String} (free : text ∉ keywords) :
    wordToken text = .name text := by
  unfold wordToken
  split <;> first | rfl | exact absurd (by decide) free

theorem continuesName_of_startsName {c : Char} (starts : startsName c = true) :
    continuesName c = true := by
  unfold startsName at starts
  unfold continuesName
  rcases Bool.or_eq_true_iff.mp starts with letter | underscore
  · have known : Text.isAlphanumeric c = true := by
      refine Text.isAlphanumeric_of_isAlphanum ?_
      rw [Char.isAlphanum, letter, Bool.true_or]
    rw [known, Bool.true_or]
  · rw [underscore, Bool.or_true]

/-- A name starts with a character of ASCII that comes behind the digits. -/
theorem toNat_of_startsName {c : Char} (starts : startsName c = true) :
    0x41 ≤ c.toNat ∧ c.toNat ≤ 0x7a := by
  change (decide ('A'.val ≤ c.val ∧ c.val ≤ 'Z'.val) ||
    ('a'.val ≤ c.val && c.val ≤ 'z'.val) || c == '_') = true at starts
  simp only [Bool.or_eq_true, Bool.and_eq_true, decide_eq_true_eq, beq_iff_eq] at starts
  rcases starts with (⟨low, high⟩ | ⟨low, high⟩) | rfl
  · have low := UInt32.le_iff_toNat_le.mp low
    have high := UInt32.le_iff_toNat_le.mp high
    exact ⟨low, Nat.le_trans high (by decide)⟩
  · have low := UInt32.le_iff_toNat_le.mp low
    have high := UInt32.le_iff_toNat_le.mp high
    exact ⟨Nat.le_trans (by decide) low, high⟩
  · decide

theorem isDigit_of_startsName {c : Char} (starts : startsName c = true) : c.isDigit = false := by
  cases digit : c.isDigit with
  | false => rfl
  | true =>
      have low := (Char.isDigit_iff_toNat.mp digit).2
      have high := (toNat_of_startsName starts).1
      exact absurd (Nat.le_trans high low) (by decide)

theorem isQuote_of_continuesName {c : Char} (continues : continuesName c = true) :
    isQuote c = false := by
  cases marks : isQuote c with
  | false => rfl
  | true =>
      have quotes : c = '"' ∨ c = '\'' := by simpa [isQuote] using marks
      rcases quotes with rfl | rfl <;> exact absurd continues (by decide)

namespace LexState

variable {base depth place start : Nat} {tokens : List Located} {chars : List Char}

theorem start_name {state : LexState} {c : Char} (starts : startsName c = true) :
    state.start c = .ok (state.advance c (.word state.place [c])) := by
  have other : ∀ d, startsName d = false → c ≠ d := by
    rintro d no rfl
    rw [starts] at no
    cases no
  have notDigit : c.isDigit = false := isDigit_of_startsName starts
  have notQuote : isQuote c = false := isQuote_of_continuesName (continuesName_of_startsName starts)
  unfold LexState.start
  simp [other ' ' (by decide), other '\t' (by decide), other '\r' (by decide),
    other '\n' (by decide), other '#' (by decide), notQuote, notDigit, starts]

/-- A word goes on as long as its characters do. -/
theorem run_word (more rest : List Char) (continues : ∀ c ∈ more, continuesName c = true) :
    run base ⟨tokens, depth, place, .word start chars⟩ (more ++ rest) =
      run base ⟨tokens, depth, place + Text.byteLength more, .word start (more.reverse ++ chars)⟩
        rest := by
  induction more generalizing place chars with
  | nil => rfl
  | cons c more ih =>
      have first := continues c List.mem_cons_self
      have stepped : step base ⟨tokens, depth, place, .word start chars⟩ c =
          .ok ⟨tokens, depth, place + c.utf8Size, .word start (c :: chars)⟩ := by
        simp [step, isQuote_of_continuesName first, first, advance]
      have later : run base ⟨tokens, depth, place + c.utf8Size, .word start (c :: chars)⟩
          (more ++ rest) = _ :=
        ih fun d member => continues d (List.mem_cons_of_mem _ member)
      rw [List.cons_append, run, List.foldlM_cons, stepped]
      refine later.trans ?_
      rw [Text.byteLength_cons, List.reverse_cons, List.append_assoc, List.singleton_append,
        Nat.add_assoc]

/-- The word ends where something stands that is not part of a name. -/
theorem step_word_closeParen (more : List Char) :
    step base ⟨tokens, depth, place, .word start more⟩ ')' =
      .ok ⟨⟨.closeParen, ⟨place, place + 1⟩⟩ ::
        ⟨wordToken (String.ofList more.reverse), ⟨start, place⟩⟩ :: tokens, depth - 1, place + 1,
          .between⟩ := rfl

end LexState

/-- Code that prints a variable. -/
def printing (name : String) : String := "print(" ++ name ++ ") "

variable {name : String}

theorem IsName.notMem {mark : Char} (identifier : IsName name)
    (outside : continuesName mark = false) : mark ∉ name.toList := by
  obtain ⟨first, rest, chars, starts, continues⟩ := identifier
  have whole : ∀ c ∈ first :: rest, continuesName c = true := by
    refine List.forall_mem_cons.mpr ⟨continuesName_of_startsName ?_, fun c member => ?_⟩
    · simpa [startsName] using starts
    · simpa [continuesName] using continues c member
  intro member
  rw [chars] at member
  rw [whole mark member] at outside
  cases outside

theorem notMem_printing {mark : Char} (identifier : IsName name)
    (outside : continuesName mark = false) (other : mark ∉ "print() ".toList) :
    mark ∉ (printing name).toList := by
  have absent := identifier.notMem outside
  simpa [printing, absent] using other

theorem tokenize_printing (identifier : IsName name) (free : name ∉ keywords) :
    let stop := 6 + Text.byteLength name.toList
    tokenize 0 (printing name).toList =
      .ok [⟨.name "print", ⟨0, 5⟩⟩, ⟨.openParen, ⟨5, 6⟩⟩, ⟨.name name, ⟨6, stop⟩⟩,
        ⟨.closeParen, ⟨stop, stop + 1⟩⟩] := by
  intro stop
  obtain ⟨first, rest, chars, starts, continues⟩ := identifier
  have start : startsName first = true := by simpa [startsName] using starts
  have more : ∀ c ∈ rest, continuesName c = true := fun c member => by
    simpa [continuesName] using continues c member
  have written : (printing name).toList = "print(".toList ++ first :: (rest ++ [')', ' ']) := by
    simp [printing, chars]
  have opened : LexState.run 0 (.initial 0) "print(".toList =
      .ok ⟨[⟨.openParen, ⟨5, 6⟩⟩, ⟨.name "print", ⟨0, 5⟩⟩], 1, 6, .between⟩ := rfl
  have word : LexState.run 0 ⟨[⟨.openParen, ⟨5, 6⟩⟩, ⟨.name "print", ⟨0, 5⟩⟩], 1,
      6 + first.utf8Size, .word 6 [first]⟩ (rest ++ [')', ' ']) = _ :=
    LexState.run_word rest [')', ' '] more
  have begun : LexState.step 0
      ⟨[⟨.openParen, ⟨5, 6⟩⟩, ⟨.name "print", ⟨0, 5⟩⟩], 1, 6, .between⟩ first = _ :=
    LexState.start_name start
  have named : wordToken (String.ofList (rest.reverse ++ [first]).reverse) = .name name := by
    rw [List.reverse_append, List.reverse_reverse, List.reverse_singleton, List.singleton_append,
      ← chars, String.ofList_toList, wordToken_of_notMem free]
  have place : 6 + first.utf8Size + Text.byteLength rest = stop := by
    rw [Nat.add_assoc, ← Text.byteLength_cons, ← chars]
  have ran : LexState.run 0 (.initial 0) (printing name).toList =
      .ok ⟨[⟨.closeParen, ⟨stop, stop + 1⟩⟩, ⟨.name name, ⟨6, stop⟩⟩, ⟨.openParen, ⟨5, 6⟩⟩,
        ⟨.name "print", ⟨0, 5⟩⟩], 0, stop + 2, .between⟩ := by
    rw [written]
    refine foldlM_append_eq_ok.mpr ⟨_, opened, foldlM_cons_eq_ok.mpr ⟨_, begun, ?_⟩⟩
    refine word.trans ?_
    rw [place]
    refine foldlM_cons_eq_ok.mpr ⟨_, LexState.step_word_closeParen _, ?_⟩
    rw [named]
    rfl
  rw [tokenize, ran]
  rfl

/-- The code is one call, of the one name with the other. -/
theorem parse_printing (identifier : IsName name) (free : name ∉ keywords) :
    let stop := 6 + Text.byteLength name.toList
    Program.parse (printing name) =
      .ok [.expr (.call (.variable "print" ⟨0, 5⟩) [.variable name ⟨6, stop⟩] ⟨0, stop + 1⟩)
        ⟨0, stop + 1⟩] := by
  intro stop
  rw [Program.parse, Program.ofChars, tokenize_printing identifier free]
  rfl

end LiteratePages.Code
