import LiteratePages.Proofs.Code.Brackets
import LiteratePages.Proofs.Code.Spans
import LiteratePages.Proofs.Meets

namespace LiteratePages.Code

/-- Whether a backslash escapes the character after `text`. -/
def escapedAfter (escaped : Bool) (text : List Char) : Bool :=
  text.foldl (fun escaped c => !escaped && c == '\\') escaped

/-- Line feeds stand in `text` after backslashes only, as in the body of a string. -/
def Folded : (escaped : Bool) → (text : List Char) → Prop
  | _, [] => True
  | escaped, c :: rest => (c = '\n' → escaped = true) ∧ Folded (!escaped && c == '\\') rest

theorem folded_append {escaped : Bool} {first second : List Char} :
    Folded escaped (first ++ second) ↔
      Folded escaped first ∧ Folded (escapedAfter escaped first) second := by
  induction first generalizing escaped with
  | nil => simp [Folded, escapedAfter]
  | cons c rest ih =>
      rw [List.cons_append, Folded, Folded, ih, and_assoc]
      rfl

theorem escapedAfter_concat (escaped : Bool) (text : List Char) (c : Char) :
    escapedAfter escaped (text ++ [c]) = (!escapedAfter escaped text && c == '\\') := by
  simp [escapedAfter]

/-- The token may be written as `piece` at byte `place`. -/
def Token.Spells (token : Token) (place : Nat) (piece : List Char) : Prop :=
  match token with
  | .name text => piece = text.toList
  | .format body start => ∃ opening closing, piece = opening ++ body ++ closing ∧
      start = place + Text.byteLength opening ∧ Folded false body
  | _ => True

/-- The token is written where its span says. -/
def Located.Stands (source : List Char) (located : Located) : Prop :=
  ∃ piece, piece ≠ [] ∧ located.span.Cuts source piece ∧
    located.token.Spells located.span.start piece

/-- Tokens of the bytes from `start` to `stop`, one after the other. -/
structure Tokens (source : List Char) (start stop : Nat) (tokens : List Located) : Prop where
  stand : ∀ next ∈ tokens, next.Stands source
  sorted : tokens.Pairwise fun next later => next.span.stop ≤ later.span.start
  lower : ∀ next ∈ tokens, start ≤ next.span.start
  upper : ∀ next ∈ tokens, next.span.stop ≤ stop

/-- An error points at a piece of its source. That of a format string without end stops one byte
early. -/
def SyntaxError.PointsInto (source : List Char) (error : SyntaxError) : Prop :=
  (∃ piece, error.span.Cuts source piece) ∨
    error.cause = .unterminatedString ∧ ∃ quote body, isQuote quote = true ∧
      Span.Cuts source ⟨error.span.start, error.span.stop + 1⟩ ('f' :: quote :: body)

def opening (format : Bool) (quote : Char) : List Char := if format then ['f', quote] else [quote]

namespace Scan

/-- The characters of the token under way. -/
def text : Scan → List Char
  | .between | .comment => []
  | .word _ chars => chars.reverse
  | .digits _ whole => whole.reverse
  | .point _ whole => whole.reverse ++ ['.']
  | .fraction _ whole decimals => whole.reverse ++ '.' :: decimals.reverse
  | .relation _ first | .pair _ first => [first]
  | .quoted format _ quote _ _ body => opening format quote ++ body.reverse

/-- What the characters read so far are known to be. -/
def Valid : Scan → Prop
  | .between | .comment | .relation .. => True
  | .word _ chars => chars ≠ []
  | .digits _ whole | .point _ whole | .fraction _ whole _ => whole ≠ []
  | .pair _ first => first = '&' ∨ first = '|'
  | .quoted format start quote opened escaped body =>
      isQuote quote = true ∧ opened = start + Text.byteLength (opening format quote) ∧
        Folded false body.reverse ∧ escapedAfter false body.reverse = escaped

/-- What is left of a text whose line feeds are all escaped. -/
def Expects (scan : Scan) (rest : List Char) : Prop :=
  match scan with
  | .quoted _ _ _ _ escaped _ => Folded escaped rest
  | .comment => ∃ escaped, Folded escaped rest
  | _ => Folded false rest

end Scan

namespace LexState

/-- Where the token under way starts, or the next one may. -/
def reach (state : LexState) : Nat := state.scan.start?.getD state.place

/-- What is known when the characters `passed` of a source have been read, the last of them as
those of a text that starts at byte `base`. -/
structure Reads (source : List Char) (base : Nat) (passed : List Char) (state : LexState) :
    Prop where
  place : state.place = Text.byteLength passed
  tokens : Tokens source base state.reach state.tokens.reverse
  base_le : base ≤ state.reach
  under : ∃ before, passed = before ++ state.scan.text ∧ state.reach = Text.byteLength before
  valid : state.scan.Valid

end LexState

theorem cuts_of_append {source passed before piece : List Char} {start : Nat}
    (within : passed <+: source) (parts : passed = before ++ piece)
    (reached : start = Text.byteLength before) :
    Span.Cuts source ⟨start, Text.byteLength passed⟩ piece := by
  obtain ⟨after, rfl⟩ := within
  exact ⟨before, after, by rw [parts], reached, by rw [parts, Text.byteLength_append]⟩

theorem Tokens.concat {source : List Char} {base start stop : Nat} {tokens : List Located}
    {token : Token} {piece : List Char} (before : Tokens source base start tokens)
    (above : base ≤ start) (some : piece ≠ []) (cuts : Span.Cuts source ⟨start, stop⟩ piece)
    (spells : token.Spells start piece) :
    Tokens source base stop (tokens ++ [⟨token, ⟨start, stop⟩⟩]) := by
  have forward : start < stop := cuts.lt some
  refine ⟨?_, ?_, ?_, ?_⟩
  · intro next member
    rcases List.mem_append.mp member with earlier | last
    · exact before.stand next earlier
    · rw [List.mem_singleton.mp last]
      exact ⟨piece, some, cuts, spells⟩
  · refine List.pairwise_append.mpr ⟨before.sorted, List.pairwise_singleton .., ?_⟩
    intro next member later last
    rw [List.mem_singleton.mp last]
    exact before.upper next member
  · intro next member
    rcases List.mem_append.mp member with earlier | last
    · exact before.lower next earlier
    · rw [List.mem_singleton.mp last]
      exact above
  · intro next member
    rcases List.mem_append.mp member with earlier | last
    · exact Nat.le_trans (before.upper next earlier) (Nat.le_of_lt forward)
    · rw [List.mem_singleton.mp last]

theorem Tokens.widen {source : List Char} {base start stop : Nat} {tokens : List Located}
    (before : Tokens source base start tokens) (wider : start ≤ stop) :
    Tokens source base stop tokens :=
  ⟨before.stand, before.sorted, before.lower,
    fun next member => Nat.le_trans (before.upper next member) wider⟩

theorem Tokens.tail {source : List Char} {start stop : Nat} {next : Located} {rest : List Located}
    (tokens : Tokens source start stop (next :: rest)) :
    Tokens source next.span.stop stop rest := by
  obtain ⟨later, sorted⟩ := List.pairwise_cons.mp tokens.sorted
  exact ⟨fun other member => tokens.stand other (List.mem_cons_of_mem _ member), sorted, later,
    fun other member => tokens.upper other (List.mem_cons_of_mem _ member)⟩

theorem Scan.text_of_idle {scan : Scan} (idle : scan.start? = none) : scan.text = [] := by
  cases scan with
  | between | comment => rfl
  | _ => cases idle

theorem Scan.valid_of_idle {scan : Scan} (idle : scan.start? = none) : scan.Valid := by
  cases scan with
  | between | comment => trivial
  | _ => cases idle

theorem spells_wordToken (text : String) (place : Nat) :
    (wordToken text).Spells place text.toList := by
  unfold wordToken
  split <;> trivial

theorem spells_relationToken (first : Char) (withEqual : Bool) (place : Nat) (piece : List Char) :
    (relationToken first withEqual).Spells place piece := by
  unfold relationToken
  repeat' split
  all_goals trivial

theorem spells_charToken? {c : Char} {token : Token} (found : charToken? c = some token)
    (place : Nat) (piece : List Char) : token.Spells place piece := by
  unfold charToken? at found
  split at found <;> cases found <;> trivial

theorem utf8Size_of_isQuote {quote : Char} (marks : isQuote quote = true) : quote.utf8Size = 1 := by
  unfold isQuote at marks
  rcases Bool.or_eq_true _ _ ▸ marks with same | same
  · rw [eq_of_beq same]
    rfl
  · rw [eq_of_beq same]
    rfl

namespace LexState

variable {source passed rest : List Char} {base : Nat} {state : LexState} {c : Char}

namespace Reads

/-- A token goes on with the next character, or starts with it. -/
theorem advance (reads : state.Reads source base passed) {scan : Scan}
    (begun : scan.start? = some state.reach) (text : scan.text = state.scan.text ++ [c])
    (valid : scan.Valid) : (state.advance c scan).Reads source base (passed ++ [c]) := by
  have reach : (state.advance c scan).reach = state.reach := by
    simp [LexState.reach, LexState.advance, begun]
  obtain ⟨before, parts, reached⟩ := reads.under
  refine ⟨?_, ?_, ?_, ⟨before, ?_, ?_⟩, valid⟩
  · simp [LexState.advance, reads.place]
  · rw [reach]
    exact reads.tokens
  · rw [reach]
    exact reads.base_le
  · simp [LexState.advance, text, parts]
  · rw [reach, reached]

/-- A character outside of tokens is passed over. -/
theorem skip (reads : state.Reads source base passed) {scan : Scan}
    (idle : state.scan.start? = none) (next : scan.start? = none) :
    (state.advance c scan).Reads source base (passed ++ [c]) := by
  have place : (state.advance c scan).place = Text.byteLength (passed ++ [c]) := by
    simp [LexState.advance, reads.place]
  have reach : (state.advance c scan).reach = Text.byteLength (passed ++ [c]) := by
    rw [← place, LexState.reach, LexState.advance]
    simp [next]
  have before : state.reach = Text.byteLength passed := by
    rw [← reads.place, LexState.reach]
    simp [idle]
  have wider : state.reach ≤ (state.advance c scan).reach := by
    rw [reach, before, Text.byteLength_append]
    exact Nat.le_add_right _ _
  refine ⟨place, reads.tokens.widen wider, Nat.le_trans reads.base_le wider,
    ⟨passed ++ [c], ?_, reach⟩, Scan.valid_of_idle next⟩
  simp [LexState.advance, Scan.text_of_idle next]

theorem push (reads : state.Reads source base passed) {token : Token} (within : passed <+: source)
    (some : state.scan.text ≠ []) (spells : token.Spells state.reach state.scan.text) :
    (state.push token state.reach).Reads source base passed := by
  obtain ⟨before, parts, reached⟩ := reads.under
  have cuts := cuts_of_append within parts reached
  rw [← reads.place] at cuts
  have tokens := reads.tokens.concat reads.base_le some cuts spells
  have forward : state.reach < state.place := cuts.lt some
  refine ⟨reads.place, ?_, ?_, ⟨passed, ?_, reads.place⟩, trivial⟩
  · simpa [LexState.push, LexState.reach, Scan.start?] using tokens
  · exact Nat.le_trans reads.base_le (Nat.le_of_lt forward)
  · simp [LexState.push, Scan.text]

theorem close (reads : state.Reads source base passed) {token : Token}
    (within : passed ++ [c] <+: source)
    (spells : token.Spells state.reach (state.scan.text ++ [c])) :
    (state.close c token state.reach).Reads source base (passed ++ [c]) := by
  obtain ⟨before, parts, reached⟩ := reads.under
  have cuts := cuts_of_append within (by rw [parts, List.append_assoc]) reached
  have place : Text.byteLength (passed ++ [c]) = state.place + c.utf8Size := by
    simp [reads.place]
  rw [place] at cuts
  have tokens := reads.tokens.concat reads.base_le (by simp) cuts spells
  have forward : state.reach < state.place + c.utf8Size := cuts.lt (by simp)
  refine ⟨place.symm, ?_, ?_, ⟨passed ++ [c], ?_, place.symm⟩, trivial⟩
  · simpa [LexState.close, LexState.push, LexState.advance, LexState.reach, Scan.start?]
      using tokens
  · exact Nat.le_trans reads.base_le (Nat.le_of_lt forward)
  · simp [LexState.close, LexState.push, Scan.text]

theorem place_eq (reads : state.Reads source base passed) :
    state.place = state.reach + Text.byteLength state.scan.text := by
  obtain ⟨before, parts, reached⟩ := reads.under
  rw [reads.place, parts, reached, Text.byteLength_append]

/-- The token under way stands in the source up to the place that has been reached. -/
theorem cuts (reads : state.Reads source base passed) (within : passed <+: source) :
    Span.Cuts source ⟨state.reach, state.place⟩ state.scan.text := by
  obtain ⟨before, parts, reached⟩ := reads.under
  rw [reads.place]
  exact cuts_of_append within parts reached

end Reads

/-- What is known of a state while `rest` is still to be read. In a text whose line feeds are all
escaped none of them breaks off a string. -/
def Ready (source : List Char) (base : Nat) (passed rest : List Char) (state : LexState) : Prop :=
  state.Reads source base passed ∧ (base = 0 ∨ state.scan.Expects rest)

theorem pointsInto_of_cuts {cause : SyntaxCause} {span : Span} {piece : List Char}
    (cuts : span.Cuts source piece) : SyntaxError.PointsInto source ⟨cause, span⟩ :=
  .inl ⟨piece, cuts⟩

/-- The point after digits that no digit follows. -/
theorem Reads.point {start : Nat} {whole : List Char} (reads : state.Reads source base passed)
    (within : passed <+: source) (reading : state.scan = .point start whole) :
    SyntaxError.PointsInto source
      ⟨.unexpectedCharacter '.', ⟨state.place - 1, state.place⟩⟩ := by
  obtain ⟨before, parts, _⟩ := reads.under
  rw [reading] at parts
  have text : passed = (before ++ whole.reverse) ++ ['.'] := by simp [parts, Scan.text]
  have place : state.place - 1 = Text.byteLength (before ++ whole.reverse) := by
    rw [reads.place, text, Text.byteLength_append]
    rfl
  rw [place, reads.place]
  exact pointsInto_of_cuts (cuts_of_append within text rfl)

/-- One of two characters that only stand together. -/
theorem Reads.pair {start : Nat} {first : Char} (reads : state.Reads source base passed)
    (within : passed <+: source) (reading : state.scan = .pair start first) :
    SyntaxError.PointsInto source ⟨.unexpectedCharacter first, ⟨start, start + 1⟩⟩ := by
  have cuts := reads.cuts within
  have place := reads.place_eq
  have valid := reads.valid
  rw [reading] at valid
  have width : first.utf8Size = 1 := by rcases valid with rfl | rfl <;> rfl
  simp only [LexState.reach, reading, Scan.start?, Scan.text, Option.getD_some,
    Text.byteLength_cons, Text.byteLength_nil, width] at cuts place
  rw [place] at cuts
  exact pointsInto_of_cuts cuts

/-- A string that a line feed breaks off, in a text with nothing before it. -/
theorem Reads.broken {format escaped : Bool} {start opened : Nat} {quote : Char} {body : List Char}
    (reads : state.Reads source base passed) (within : passed <+: source)
    (reading : state.scan = .quoted format start quote opened escaped body) :
    SyntaxError.PointsInto source
      ⟨.unterminatedString, ⟨start, max (state.place - 0) (start + 1)⟩⟩ := by
  have cuts := reads.cuts within
  simp only [LexState.reach, reading, Scan.start?, Option.getD_some] at cuts
  have forward : start < state.place := cuts.lt (by cases format <;> simp [Scan.text, opening])
  have stop : max (state.place - 0) (start + 1) = state.place := by omega
  rw [stop]
  exact pointsInto_of_cuts cuts

/-- A string that the text ends in. -/
theorem Reads.unterminated {format escaped : Bool} {start opened : Nat} {quote : Char}
    {body : List Char} (reads : state.Reads source base passed) (within : passed <+: source)
    (reading : state.scan = .quoted format start quote opened escaped body) :
    SyntaxError.PointsInto source
      ⟨.unterminatedString, ⟨start, start + Text.byteLength body + 1⟩⟩ := by
  have cuts := reads.cuts within
  have place := reads.place_eq
  have valid := reads.valid
  rw [reading] at valid
  have marks : isQuote quote = true := valid.1
  have width := utf8Size_of_isQuote marks
  simp only [LexState.reach, reading, Scan.start?, Option.getD_some, Scan.text] at cuts place
  rw [place] at cuts
  cases format with
  | false =>
      refine .inl ⟨[quote] ++ body.reverse, ?_⟩
      simpa [opening, width, Nat.add_comm, Nat.add_left_comm] using cuts
  | true =>
      have letter : 'f'.utf8Size = 1 := rfl
      refine .inr ⟨rfl, quote, body.reverse, marks, ?_⟩
      simpa [opening, width, letter, Nat.add_comm, Nat.add_left_comm] using cuts

theorem spells_quotedToken {format : Bool} {quote : Char} {start opened : Nat} {body : List Char}
    (place : opened = start + Text.byteLength (opening format quote))
    (folded : Folded false body.reverse) :
    (quotedToken format opened body).Spells start
      (opening format quote ++ body.reverse ++ [c]) := by
  cases format with
  | false => trivial
  | true => exact ⟨opening true quote, [c], rfl, place, folded⟩

theorem start_backslash (state : LexState) :
    state.start '\\' =
      .error ⟨.unexpectedCharacter '\\', ⟨state.place, state.place + '\\'.utf8Size⟩⟩ := by
  rfl

theorem start_meets (reads : state.Reads source base passed) (idle : state.scan.start? = none)
    (within : passed ++ [c] <+: source) (folded : base = 0 ∨ Folded (c == '\\') rest) :
    Meets (Ready source base (passed ++ [c]) rest) (SyntaxError.PointsInto source)
      (state.start c) := by
  have unexpected : SyntaxError.PointsInto source
      ⟨.unexpectedCharacter c, ⟨state.place, state.place + c.utf8Size⟩⟩ := by
    have cuts := cuts_of_append within rfl reads.place
    have place : Text.byteLength (passed ++ [c]) = state.place + c.utf8Size := by
      simp [reads.place]
    rw [place] at cuts
    exact pointsInto_of_cuts cuts
  by_cases backslash : c = '\\'
  · subst backslash
    rw [start_backslash]
    exact unexpected
  have unescaped : (c == '\\') = false := beq_eq_false_iff_ne.mpr backslash
  rw [unescaped] at folded
  have reach : state.reach = state.place := by simp [LexState.reach, idle]
  have nothing : state.scan.text = [] := Scan.text_of_idle idle
  have begins : ∀ {scan : Scan}, scan.start? = some state.place → scan.text = [c] → scan.Valid →
      (state.advance c scan).Reads source base (passed ++ [c]) := by
    intro scan begun text valid
    exact reads.advance (by rw [begun, reach]) (by rw [text, nothing, List.nil_append]) valid
  have closes : ∀ {token : Token}, token.Spells state.place [c] →
      (state.close c token state.place).Reads source base (passed ++ [c]) := by
    intro token spells
    have closed : (state.close c token state.reach).Reads source base (passed ++ [c]) :=
      reads.close within (by rwa [reach, nothing, List.nil_append])
    rwa [reach] at closed
  unfold LexState.start
  dsimp only
  split
  · exact ⟨reads.skip idle rfl, folded⟩
  split
  · split
    · exact ⟨closes trivial, folded⟩
    · exact ⟨reads.skip idle rfl, folded⟩
  split
  · exact ⟨reads.skip idle rfl, folded.imp_right fun folds => ⟨false, folds⟩⟩
  split
  · rename_i marks
    refine ⟨begins rfl rfl ⟨marks, ?_, trivial, rfl⟩, folded⟩
    simp [opening, utf8Size_of_isQuote marks]
  split
  · exact ⟨begins rfl rfl (by simp [Scan.Valid]), folded⟩
  split
  · exact ⟨begins rfl rfl (by simp [Scan.Valid]), folded⟩
  split
  · exact ⟨begins rfl rfl trivial, folded⟩
  split
  · rename_i doubled
    exact ⟨begins rfl rfl doubled, folded⟩
  split
  · rename_i token found
    have closed := closes (spells_charToken? found state.place [c])
    exact ⟨⟨closed.place, closed.tokens, closed.base_le, closed.under, closed.valid⟩, folded⟩
  · exact unexpected

/-- A character other than a backslash escapes nothing. -/
theorem folded_tail (other : c ≠ '\\') (folds : base = 0 ∨ Folded false (c :: rest)) :
    base = 0 ∨ Folded false rest := by
  refine folds.imp_right fun folds => ?_
  have later := folds.2
  rwa [beq_eq_false_iff_ne.mpr other] at later

theorem ne_backslash_of_isDigit (digit : c.isDigit = true) : c ≠ '\\' := by
  rintro rfl
  exact absurd digit (by decide)

theorem ne_backslash_of_isQuote (marks : isQuote c = true) : c ≠ '\\' := by
  rintro rfl
  exact absurd marks (by decide)

/-- The next character of a string. -/
theorem step_quoted_meets {tokens : List Located} {depth place start opened : Nat}
    {format escaped : Bool} {quote : Char} {body : List Char}
    (ready : Ready source base passed (c :: rest)
      ⟨tokens, depth, place, .quoted format start quote opened escaped body⟩)
    (within : passed ++ [c] <+: source) :
    Meets (Ready source base (passed ++ [c]) rest) (SyntaxError.PointsInto source)
      (step base ⟨tokens, depth, place, .quoted format start quote opened escaped body⟩ c) := by
  obtain ⟨reads, expects⟩ := ready
  have before : passed <+: source := (List.prefix_append passed [c]).trans within
  obtain ⟨marks, place_opened, folded, flag⟩ := reads.valid
  -- In a body every character is kept, and a backslash escapes the next one.
  have goesOn : ∀ {next : Bool}, (c = '\n' → escaped = true) → (!escaped && c == '\\') = next →
      Ready source base (passed ++ [c]) rest
        (LexState.advance ⟨tokens, depth, place, .quoted format start quote opened escaped body⟩ c
          (.quoted format start quote opened next (c :: body))) := by
    rintro next kept rfl
    refine ⟨reads.advance rfl (by simp [Scan.text]) ⟨marks, place_opened, ?_, ?_⟩,
      expects.imp_right fun folds => folds.2⟩
    · rw [List.reverse_cons]
      exact folded_append.mpr ⟨folded, by rw [flag]; exact kept, trivial⟩
    · rw [List.reverse_cons, escapedAfter_concat, flag]
  unfold LexState.step
  dsimp only
  split
  · rename_i escapes
    exact goesOn (fun _ => escapes) (by simp [escapes])
  rename_i unescaped
  have plainly : escaped = false := eq_false_of_ne_true unescaped
  subst plainly
  split
  · rename_i ends
    subst ends
    exact ⟨reads.close within (spells_quotedToken place_opened folded),
      folded_tail (ne_backslash_of_isQuote marks) expects⟩
  split
  · rename_i newline
    rcases expects with rfl | folds
    · exact reads.broken before rfl
    · cases folds.1 newline
  · rename_i other
    exact goesOn (fun newline => absurd newline other) rfl

theorem step_meets (ready : state.Ready source base passed (c :: rest))
    (within : passed ++ [c] <+: source) :
    Meets (Ready source base (passed ++ [c]) rest) (SyntaxError.PointsInto source)
      (state.step base c) := by
  obtain ⟨reads, expects⟩ := ready
  have before : passed <+: source := (List.prefix_append passed [c]).trans within
  -- Outside of strings and comments no backslash has been read.
  have plain : (base = 0 ∨ Folded false (c :: rest)) → base = 0 ∨ Folded (c == '\\') rest :=
    Or.imp_right fun folds => by simpa using folds.2
  have pushed : ∀ {token : Token}, state.scan.text ≠ [] → token.Spells state.reach state.scan.text →
      (base = 0 ∨ Folded false (c :: rest)) →
      Meets (Ready source base (passed ++ [c]) rest) (SyntaxError.PointsInto source)
        ((state.push token state.reach).start c) := by
    intro token some spells folds
    exact start_meets (reads.push before some spells) rfl within (plain folds)
  obtain ⟨tokens, depth, place, scan⟩ := state
  unfold LexState.step
  cases scan with
  | between => exact start_meets reads rfl within (plain expects)
  | comment =>
      dsimp only
      split
      · rename_i newline
        refine start_meets reads rfl within (expects.imp_right ?_)
        rintro ⟨escaped, folds⟩
        simpa [newline] using folds.2
      · refine ⟨reads.skip rfl rfl, expects.imp_right ?_⟩
        rintro ⟨escaped, folds⟩
        exact ⟨_, folds.2⟩
  | word start chars =>
      have some : chars.reverse ≠ [] := mt List.reverse_eq_nil_iff.mp reads.valid
      dsimp only
      split
      · rename_i prefixed
        obtain ⟨marks, rfl⟩ := prefixed
        have opened : place + 1 = start + Text.byteLength (opening true c) := by
          have reached : place = start + Text.byteLength ['f'] := reads.place_eq
          simp [reached, opening, utf8Size_of_isQuote marks, Nat.add_assoc]
        exact ⟨reads.advance rfl rfl ⟨marks, opened, trivial, rfl⟩,
          folded_tail (ne_backslash_of_isQuote marks) expects⟩
      split
      · rename_i continues
        refine ⟨reads.advance rfl (by simp [Scan.text]) (by simp [Scan.Valid]),
          folded_tail ?_ expects⟩
        rintro rfl
        exact absurd continues (by decide)
      · have spells := spells_wordToken (String.ofList chars.reverse) start
        rw [String.toList_ofList] at spells
        exact pushed some spells expects
  | digits start whole =>
      have some : whole.reverse ≠ [] := mt List.reverse_eq_nil_iff.mp reads.valid
      dsimp only
      split
      · rename_i digit
        exact ⟨reads.advance rfl (by simp [Scan.text]) (by simp [Scan.Valid]),
          folded_tail (ne_backslash_of_isDigit digit) expects⟩
      split
      · rename_i point
        subst point
        exact ⟨reads.advance rfl rfl reads.valid, folded_tail (by decide) expects⟩
      · exact pushed some trivial expects
  | point start whole =>
      dsimp only
      split
      · rename_i digit
        exact ⟨reads.advance rfl (by simp [Scan.text]) reads.valid,
          folded_tail (ne_backslash_of_isDigit digit) expects⟩
      · exact reads.point before rfl
  | fraction start whole decimals =>
      have some : whole.reverse ++ '.' :: decimals.reverse ≠ [] := by simp
      dsimp only
      split
      · rename_i digit
        exact ⟨reads.advance rfl (by simp [Scan.text]) reads.valid,
          folded_tail (ne_backslash_of_isDigit digit) expects⟩
      · exact pushed some trivial expects
  | relation start first =>
      dsimp only
      split
      · rename_i equal
        subst equal
        exact ⟨reads.close within (spells_relationToken ..), folded_tail (by decide) expects⟩
      · exact pushed (List.cons_ne_nil first []) (spells_relationToken ..) expects
  | pair start first =>
      dsimp only
      split
      · rename_i same
        subst same
        refine ⟨reads.close within trivial, folded_tail ?_ expects⟩
        rcases reads.valid with rfl | rfl <;> decide
      · exact reads.pair before rfl
  | quoted => exact step_quoted_meets ⟨reads, expects⟩ within

theorem finish_meets (reads : state.Reads source base passed) (within : passed <+: source) :
    Meets (Tokens source base (Text.byteLength passed)) (SyntaxError.PointsInto source)
      state.finish := by
  have settled : ∀ {other : LexState}, other.Reads source base passed → other.scan.start? = none →
      Tokens source base (Text.byteLength passed) other.tokens.reverse := by
    intro other reads idle
    have reach : other.reach = Text.byteLength passed := by
      rw [← reads.place, LexState.reach]
      simp [idle]
    rw [← reach]
    exact reads.tokens
  obtain ⟨tokens, depth, place, scan⟩ := state
  cases scan with
  | between | comment => exact settled reads rfl
  | word start chars =>
      have spells := spells_wordToken (String.ofList chars.reverse) start
      rw [String.toList_ofList] at spells
      exact settled (reads.push within (mt List.reverse_eq_nil_iff.mp reads.valid) spells) rfl
  | digits start whole =>
      exact settled (reads.push within (mt List.reverse_eq_nil_iff.mp reads.valid) trivial) rfl
  | point start whole => exact reads.point within rfl
  | fraction start whole decimals =>
      have some : whole.reverse ++ '.' :: decimals.reverse ≠ [] := by simp
      exact settled (reads.push within some trivial) rfl
  | relation start first =>
      have spells := spells_relationToken first false start [first]
      exact settled (reads.push within (List.cons_ne_nil first []) spells) rfl
  | pair start first => exact reads.pair within rfl
  | quoted => exact reads.unterminated within rfl

theorem run_meets {text : List Char} (ready : state.Ready source base passed text)
    (within : passed ++ text <+: source) :
    Meets (Reads source base (passed ++ text)) (SyntaxError.PointsInto source)
      (run base state text) := by
  -- Some of the text has been read and the rest has not.
  let invariant : LexState → List Char → Prop := fun state rest =>
    ∃ before, before ++ rest = passed ++ text ∧ state.Ready source base before rest
  have kept : ∀ state c rest, invariant state (c :: rest) →
      Meets (invariant · rest) (SyntaxError.PointsInto source) (step base state c) := by
    rintro state c rest ⟨before, parts, ready⟩
    have parts' : (before ++ [c]) ++ rest = passed ++ text := by
      rw [← parts, List.append_assoc]
      rfl
    have reached : before ++ [c] <+: source := (parts' ▸ List.prefix_append _ rest).trans within
    exact (step_meets ready reached).mono (fun _ ready => ⟨_, parts', ready⟩) fun _ points => points
  have whole : Meets (invariant · []) (SyntaxError.PointsInto source) (run base state text) :=
    Meets.foldlM kept ⟨passed, rfl, ready⟩
  refine whole.mono ?_ fun _ points => points
  rintro after ⟨before, parts, ready⟩
  rw [List.append_nil] at parts
  rw [← parts]
  exact ready.1

end LexState

/-- The tokens of a piece of a source stand in it one after the other, and if there are none, the
error points at a place of it. Where text stands before the piece, it must be the body of a string:
in it all line feeds are escaped. -/
theorem tokenize_meets {source before text after : List Char} {base : Nat}
    (parts : source = before ++ text ++ after) (reached : base = Text.byteLength before)
    (folded : base = 0 ∨ Folded false text) :
    Meets (Tokens source base (base + Text.byteLength text)) (SyntaxError.PointsInto source)
      (tokenize base text) := by
  have under : before = before ++ (LexState.initial base).scan.text := (List.append_nil before).symm
  have initial : (LexState.initial base).Ready source base before text :=
    ⟨⟨reached, ⟨nofun, .nil, nofun, nofun⟩, Nat.le_refl _, ⟨before, under, reached⟩, trivial⟩,
      folded⟩
  have within : before ++ text <+: source := ⟨after, parts.symm⟩
  have ran := LexState.run_meets initial within
  unfold tokenize
  cases result : LexState.run base (.initial base) text with
  | error error =>
      rw [result] at ran
      exact ran
  | ok state =>
      rw [result] at ran
      have ended := LexState.finish_meets ran within
      rwa [Text.byteLength_append, ← reached] at ended

theorem tokens_of_tokenize {text : List Char} {tokens : List Located}
    (lexed : tokenize 0 text = .ok tokens) : Tokens text 0 (0 + Text.byteLength text) tokens := by
  have parts : text = [] ++ text ++ [] := by simp
  have meets : Meets (Tokens text 0 (0 + Text.byteLength text)) _ (tokenize 0 text) :=
    tokenize_meets parts rfl (.inl rfl)
  rwa [lexed] at meets

end LiteratePages.Code
