import LiteratePages.Proofs.Code.Juxtaposition
import LiteratePages.Proofs.Code.ExpressionPlacement
import LiteratePages.Proofs.Code.LexerPlaces
import Mathlib.Data.List.Induction

namespace LiteratePages.Code

/-- A list splits in one way only into a part where a property holds and a part where it fails. -/
theorem append_inj_of_separated {α : Type} {holds : α → Prop} {first second left right : List α}
    (same : first ++ second = left ++ right) (inFirst : ∀ a ∈ first, holds a)
    (inLeft : ∀ a ∈ left, holds a) (notInSecond : ∀ a ∈ second, ¬ holds a)
    (notInRight : ∀ a ∈ right, ¬ holds a) : first = left ∧ second = right := by
  rcases List.append_eq_append_iff.mp same with ⟨more, rfl, rfl⟩ | ⟨more, rfl, rfl⟩
  · cases more with
    | nil => simp
    | cons a more => exact absurd (inLeft a (by simp)) (notInSecond a (by simp))
  · cases more with
    | nil => simp
    | cons a more => exact absurd (inFirst a (by simp)) (notInRight a (by simp))

namespace LexState

variable {state after : LexState} {base : Nat} {c : Char} {text : List Char}
  {tokens : List Located}

/-- With no token under way, the tokens of a text follow those read before. -/
theorem tokens_of_idle {before : List Located} {depth place : Nat} {scan : Scan}
    (idle : scan.start? = none)
    (read : (run base ⟨before, depth, place, scan⟩ text).bind finish = .ok tokens) :
    ∃ others, (run 0 ⟨[], depth, 0, scan⟩ text).bind finish = .ok others ∧
      tokens = before.reverse ++ others.map (Located.relocate (· + place)) := by
  have embedded : (⟨before, depth, place, scan⟩ : LexState) =
      embed place before ⟨[], depth, 0, scan⟩ := by
    have kept : scan.relocate (· + place) = scan := by
      cases scan with
      | between | comment => rfl
      | _ => cases idle
    rw [embed, kept, Nat.zero_add]
    rfl
  have ran : (run base (embed place before ⟨[], depth, 0, scan⟩) text).toOption =
      (run 0 ⟨[], depth, 0, scan⟩ text).toOption.map (embed place before) := run_embed _ text
  rw [embedded] at read
  rcases outcomes_of_toOption (bind_toOption ran (finish_embed place before)) with
    ⟨others, alone, there⟩ | ⟨_, _, _, there⟩
  · rw [there] at read
    exact ⟨others, alone, (Except.ok.inj read).symm⟩
  · rw [there] at read
    cases read

theorem finish_of_idle (idle : state.scan.start? = none) :
    state.finish = .ok state.tokens.reverse := by
  obtain ⟨tokens, depth, place, scan⟩ := state
  cases scan with
  | between | comment => rfl
  | _ => cases idle

/-- A text that ends here ends the token under way. -/
theorem finish_of_under {start : Nat} (under : state.scan.start? = some start)
    (ended : state.finish = .ok tokens) :
    ∃ token : Token, token.Plain ∧
      tokens = state.tokens.reverse ++ [⟨token, ⟨start, state.place⟩⟩] := by
  obtain ⟨before, depth, place, scan⟩ := state
  cases scan with
  | word _ chars =>
      cases under
      cases ended
      exact ⟨_, plain_wordToken _, List.reverse_cons⟩
  | digits | fraction =>
      cases under
      cases ended
      exact ⟨_, fun _ => rfl, List.reverse_cons⟩
  | relation _ first =>
      cases under
      cases ended
      exact ⟨_, plain_relationToken first false, List.reverse_cons⟩
  | between | comment => cases under
  | point | pair | quoted => cases ended

/-- Up to here a text has tokens of its own, and those of `text` follow. -/
def Settles (state : LexState) (text : List Char) (tokens : List Located) : Prop :=
  ∃ settled others scan, state.finish = .ok settled ∧
    tokens = settled ++ others.map (Located.relocate (· + state.place)) ∧
    (run 0 ⟨[], state.depth, 0, scan⟩ text).bind finish = .ok others ∧
    (scan = .between ∨ scan = .comment ∧ state.scan = .comment)

/-- Either no token is under way here, or one ends here, or one goes on beyond. -/
theorem settles_or_cut (read : (run base state text).bind finish = .ok tokens) :
    state.Settles text tokens ∨
      ∃ next ∈ tokens, state.scan.start? = some next.span.start ∧ state.place < next.span.stop := by
  cases under : state.scan.start? with
  | none =>
      obtain ⟨others, alone, parts⟩ := tokens_of_idle under read
      refine .inl ⟨_, others, state.scan, finish_of_idle under, parts, alone, ?_⟩
      cases scan : state.scan with
      | between => exact .inl rfl
      | comment => exact .inr ⟨rfl, rfl⟩
      | _ =>
          rw [scan] at under
          cases under
  | some start =>
      -- The token under way grows until a character ends it or comes behind it.
      induction text generalizing state with
      | nil => exact .inl ⟨tokens, [], .between, read, by simp, rfl, .inl rfl⟩
      | cons c rest ih =>
          obtain ⟨final, ran, ended⟩ := bind_eq_ok.mp read
          obtain ⟨reached, stepped, later⟩ := foldlM_cons_eq_ok.mp ran
          have readLater : (run base reached rest).bind finish = .ok tokens :=
            bind_eq_ok.mpr ⟨final, later, ended⟩
          cases takes_of_step stepped with
          | comment inside other =>
              rw [inside] at under
              cases under
          | first idle ends started =>
              rw [idle] at under
              cases under
          | more own same =>
              rw [own] at under
              cases under
              have further : state.place < state.place + c.utf8Size :=
                Nat.lt_add_of_pos_right c.utf8Size_pos
              rcases ih readLater same with ⟨settled, others, scan, ended, parts, _⟩ |
                ⟨next, member, starts, beyond⟩
              · obtain ⟨token, _, rfl⟩ := finish_of_under same ended
                refine .inr ⟨⟨token, ⟨_, state.place + c.utf8Size⟩⟩, ?_, rfl, further⟩
                rw [parts]
                exact List.mem_append_left _ (List.mem_append_right _ List.mem_cons_self)
              · exact .inr ⟨next, member, starts, Nat.lt_trans further beyond⟩
          | @last token start plain own =>
              rw [own] at under
              cases under
              obtain ⟨others, _, parts⟩ := tokens_of_idle rfl readLater
              have further : state.place < state.place + c.utf8Size :=
                Nat.lt_add_of_pos_right c.utf8Size_pos
              refine .inr ⟨⟨token, ⟨start, state.place + c.utf8Size⟩⟩, ?_, rfl, further⟩
              rw [parts]
              exact List.mem_append_left _ (List.mem_reverse.mpr List.mem_cons_self)
          | behind plain own endedHere started =>
              have pushed : (run base (state.push _ _) (c :: rest)).bind finish = .ok tokens :=
                bind_eq_ok.mpr ⟨final, foldlM_cons_eq_ok.mpr ⟨reached, started, later⟩, ended⟩
              obtain ⟨others, alone, parts⟩ := tokens_of_idle rfl pushed
              exact .inl ⟨_, others, .between, endedHere, parts, alone, .inl rfl⟩

theorem start_comment (started : state.start c = .ok after) (within : after.scan = .comment) :
    c = '#' ∧ after.tokens = state.tokens := by
  cases begins_of_start started with
  | comment sign => exact ⟨sign, rfl⟩
  | token starts =>
      obtain rfl : _ = Scan.comment := within
      cases starts
  | blank | newline | whole => cases within

/-- In a comment, the tokens so far end before a number sign on the same line. -/
def Commented (passed : List Char) (state : LexState) : Prop :=
  state.scan = .comment → ∃ start line, passed = start ++ '#' :: line ∧ '\n' ∉ line ∧
    ∀ next ∈ state.tokens, next.span.stop ≤ Text.byteLength start

theorem Reads.stop_le {source passed : List Char} (reads : state.Reads source base passed) :
    ∀ next ∈ state.tokens, next.span.stop ≤ Text.byteLength passed := by
  intro next member
  have reached := reads.tokens.upper next (List.mem_reverse.mpr member)
  have ahead := reads.place_eq
  have place := reads.place
  omega

theorem Reads.commented {source passed : List Char} (reads : state.Reads source base passed)
    (commented : state.Commented passed) (stepped : state.step base c = .ok after) :
    after.Commented (passed ++ [c]) := by
  intro inside
  cases takes_of_step stepped with
  | comment own other =>
      obtain ⟨start, line, parts, sameLine, before⟩ := commented own
      exact ⟨start, line ++ [c], by simp [parts], by simp [sameLine, Ne.symm other], before⟩
  | first idle ends started =>
      obtain ⟨rfl, kept⟩ := start_comment started inside
      refine ⟨passed, [], rfl, List.not_mem_nil, ?_⟩
      rw [kept]
      exact reads.stop_le
  | @more start scan under same =>
      obtain rfl : scan = .comment := inside
      cases same
  | last => cases inside
  | @behind token start after plain under ended started =>
      obtain ⟨rfl, kept⟩ := start_comment started inside
      refine ⟨passed, [], rfl, List.not_mem_nil, ?_⟩
      rw [kept]
      intro next member
      rcases List.mem_cons.mp member with rfl | member
      · exact Nat.le_of_eq reads.place
      · exact reads.stop_le next member

theorem reads_of_run {passed : List Char} {depth : Nat} (rest : List Char)
    (ran : run 0 ⟨[], depth, 0, .between⟩ passed = .ok state) :
    state.Reads (passed ++ rest) 0 passed := by
  have initial : LexState.Ready (passed ++ rest) 0 [] passed ⟨[], depth, 0, .between⟩ :=
    ⟨⟨rfl, ⟨nofun, .nil, nofun, nofun⟩, Nat.le_refl _, ⟨[], rfl, rfl⟩, trivial⟩, .inl rfl⟩
  have read := run_meets initial (List.prefix_append passed rest)
  rw [ran] at read
  exact read

theorem commented_of_run {passed : List Char} (ran : run 0 (.initial 0) passed = .ok state) :
    state.Commented passed := by
  induction passed using List.reverseRecOn generalizing state with
  | nil =>
      cases ran
      nofun
  | append_singleton passed c ih =>
      obtain ⟨reached, before, stepped⟩ := foldlM_concat_eq_ok.mp ran
      exact (reads_of_run [c] before).commented (ih before) stepped

/-- A token under way has characters. -/
theorem Reads.reach_lt {source passed : List Char} (reads : state.Reads source base passed)
    {start : Nat} (under : state.scan.start? = some start) : start < state.place := by
  have ahead := reads.place_eq
  have valid := reads.valid
  have reached : state.reach = start := by rw [LexState.reach, under, Option.getD_some]
  have some : state.scan.text ≠ [] := by
    obtain ⟨tokens, depth, place, scan⟩ := state
    cases scan with
    | between | comment => cases under
    | word | digits => exact mt List.reverse_eq_nil_iff.mp valid
    | point | fraction | relation | pair => simp [Scan.text]
    | quoted format => cases format <;> simp [Scan.text, opening]
  have := Text.byteLength_pos some
  omega

end LexState

/-- The part `before` of a text ends between two of its tokens, and not within a comment. -/
structure Boundary (before after : List Char) (earlier : List Located) (previous next : Located)
    (later : List Located) : Prop where
  lexed : tokenize 0 (before ++ after) = .ok (earlier ++ previous :: next :: later)
  behind : previous.span.stop ≤ Text.byteLength before
  ahead : Text.byteLength before ≤ next.span.start
  /-- The line of a number sign that stands behind the token ends here at the latest. -/
  uncommented : ∀ start line, before = start ++ '#' :: line →
    previous.span.stop ≤ Text.byteLength start → '\n' ∈ line ∨ after.head? = some '\n'

namespace Boundary

variable {before after : List Char} {earlier later : List Located} {previous next : Located}

theorem uncommented_of_not_mem (plain : '#' ∉ before) :
    ∀ start line, before = start ++ '#' :: line →
      previous.span.stop ≤ Text.byteLength start → '\n' ∈ line ∨ after.head? = some '\n' := by
  intro start line written
  rw [written] at plain
  simp at plain

theorem tokens (boundary : Boundary before after earlier previous next later) :
    Tokens (before ++ after) 0 (0 + Text.byteLength (before ++ after))
      (earlier ++ previous :: next :: later) :=
  tokens_of_tokenize boundary.lexed

theorem stop_le (boundary : Boundary before after earlier previous next later) :
    ∀ token ∈ earlier ++ [previous], token.span.stop ≤ Text.byteLength before := by
  intro token member
  rcases List.mem_append.mp member with member | last
  · have ordered := (List.pairwise_append.mp boundary.tokens.sorted).2.2 token member previous
      List.mem_cons_self
    have forward := (boundary.tokens.stand previous (by simp)).forward
    have behind := boundary.behind
    omega
  · rw [List.mem_singleton.mp last]
    exact boundary.behind

theorem le_start (boundary : Boundary before after earlier previous next later) :
    ∀ token ∈ next :: later, Text.byteLength before ≤ token.span.start := by
  have sorted := (List.pairwise_append.mp boundary.tokens.sorted).2.1
  have rest := (List.pairwise_cons.mp (List.pairwise_cons.mp sorted).2).1
  have forward := (boundary.tokens.stand next (by simp)).forward
  have ahead := boundary.ahead
  intro token member
  rcases List.mem_cons.mp member with rfl | member
  · exact ahead
  · have ordered := rest token member
    omega

/-- No token reaches over a boundary. -/
theorem uncut (boundary : Boundary before after earlier previous next later) {token : Located}
    (member : token ∈ earlier ++ previous :: next :: later)
    (starts : token.span.start < Text.byteLength before) :
    token.span.stop ≤ Text.byteLength before := by
  rw [← List.singleton_append, ← List.append_assoc] at member
  rcases List.mem_append.mp member with member | member
  · exact boundary.stop_le token member
  · exact absurd (boundary.le_start token member) (Nat.not_le.mpr starts)

/-- Tokens that end before a boundary, and others behind it, are those on either side. -/
theorem eq_of_split (boundary : Boundary before after earlier previous next later)
    {settled others : List Located}
    (parts : earlier ++ previous :: next :: later =
      settled ++ others.map (Located.relocate (· + Text.byteLength before)))
    (stops : ∀ token ∈ settled, token.span.stop ≤ Text.byteLength before) :
    earlier ++ [previous] = settled ∧
      next :: later = others.map (Located.relocate (· + Text.byteLength before)) := by
  have split : earlier ++ previous :: next :: later =
      (earlier ++ [previous]) ++ (next :: later) := by
    simp
  have forward : ∀ token ∈ earlier ++ previous :: next :: later,
      token.span.start < token.span.stop :=
    fun token member => (boundary.tokens.stand token member).forward
  have laterStop : ∀ token ∈ next :: later, ¬ token.span.stop ≤ Text.byteLength before := by
    intro token member
    have ahead := forward token (by rw [split]; exact List.mem_append_right _ member)
    have starts := boundary.le_start token member
    omega
  have othersStop : ∀ token ∈ others.map (Located.relocate (· + Text.byteLength before)),
      ¬ token.span.stop ≤ Text.byteLength before := by
    intro token member
    have ahead := forward token (by rw [parts]; exact List.mem_append_right _ member)
    obtain ⟨other, _, rfl⟩ := List.mem_map.mp member
    have moved : Text.byteLength before ≤
        (other.relocate (· + Text.byteLength before)).span.start := Nat.le_add_left ..
    omega
  rw [split] at parts
  exact append_inj_of_separated parts boundary.stop_le stops laterStop othersStop

/-- A comment at a boundary ends there, with its line. -/
theorem comment_ends (boundary : Boundary before after earlier previous next later)
    {state : LexState} (ran : LexState.run 0 (.initial 0) before = .ok state)
    (ended : state.finish = .ok (earlier ++ [previous])) (inside : state.scan = .comment) :
    after.head? = some '\n' := by
  obtain ⟨start, line, written, sameLine, stops⟩ := LexState.commented_of_run ran inside
  have idle : state.scan.start? = none := by
    rw [inside]
    rfl
  rw [LexState.finish_of_idle idle] at ended
  have last : previous ∈ state.tokens := by
    rw [← List.mem_reverse, Except.ok.inj ended]
    simp
  exact (boundary.uncommented start line written (stops previous last)).resolve_left sameLine

/-- At a boundary the text so far has the tokens that stand before it, and the rest of the text has
the others. -/
theorem splits (boundary : Boundary before after earlier previous next later) :
    ∃ state others, LexState.run 0 (.initial 0) before = .ok state ∧
      state.finish = .ok (earlier ++ [previous]) ∧ tokensWithin state.depth after = .ok others ∧
      next :: later = others.map (Located.relocate (· + Text.byteLength before)) := by
  obtain ⟨final, ran, ended⟩ := tokenize_eq_ok_iff.mp boundary.lexed
  obtain ⟨state, here, there⟩ := foldlM_append_eq_ok.mp ran
  have reads := LexState.reads_of_run after here
  have place : state.place = Text.byteLength before := reads.place
  have whole : (LexState.run 0 state after).bind LexState.finish = _ :=
    bind_eq_ok.mpr ⟨final, there, ended⟩
  rcases LexState.settles_or_cut whole with
    ⟨settled, others, scan, endedHere, parts, alone, idle⟩ | ⟨token, member, under, beyond⟩
  · rw [place] at parts
    have stops : ∀ token ∈ settled, token.span.stop ≤ Text.byteLength before := by
      have meets := LexState.finish_meets reads (List.prefix_append before after)
      rw [endedHere] at meets
      exact meets.upper
    obtain ⟨rfl, rest⟩ := boundary.eq_of_split parts stops
    refine ⟨state, others, here, endedHere, ?_, rest⟩
    rcases idle with rfl | ⟨rfl, inside⟩
    · exact alone
    · -- The line feed ends the comment, and what follows is read as it would be without one.
      obtain ⟨line, rfl⟩ := List.head?_eq_some_iff.mp (boundary.comment_ends here endedHere inside)
      exact alone
  · have starts := reads.reach_lt under
    rw [place] at starts beyond
    exact absurd (boundary.uncut member starts) (Nat.not_le.mpr beyond)

/-- A line feed at a boundary moves the tokens behind it. It is a token itself when no bracket is
open. -/
theorem lexed_newline (boundary : Boundary before after earlier previous next later) :
    ∃ others : List Located,
      next :: later = others.map (Located.relocate (· + Text.byteLength before)) ∧
      tokenize 0 (before ++ '\n' :: after) = .ok (earlier ++ [previous] ++
        lineBreak (openBrackets 0 (earlier ++ [previous])) (Text.byteLength before) ++
          others.map (Located.relocate (· + (Text.byteLength before + 1)))) := by
  obtain ⟨state, others, ran, ended, within, rest⟩ := boundary.splits
  have initial : (LexState.initial 0).Counted := rfl
  rw [← (initial.run ran).finish ended]
  exact ⟨others, rest, tokensWithin_append_newline ran ended within⟩

end Boundary
end LiteratePages.Code
