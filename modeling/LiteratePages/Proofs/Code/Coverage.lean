import LiteratePages.Proofs.Code.TokenBoundaries
import LiteratePages.Proofs.Text.Lines

namespace LiteratePages.Code

/-- What is passed over in front of `rest`, inside of `depth` brackets: a blank, a line feed, or a
comment up to the end of its line. -/
inductive Skipped (depth : Nat) : (piece rest : List Char) → Prop where
  | blank {c : Char} {rest : List Char} (blank : c = ' ' ∨ c = '\t' ∨ c = '\r') :
      Skipped depth [c] rest
  | newline {rest : List Char} (within : depth ≠ 0) : Skipped depth ['\n'] rest
  | comment {line rest : List Char} (sameLine : '\n' ∉ line) (ends : ∀ c ∈ rest.head?, c = '\n') :
      Skipped depth ('#' :: line) rest

/-- A text from byte `place` on, inside of `depth` brackets, as what is passed over and tokens. -/
inductive Layout : (depth place : Nat) → List Char → List Located → Prop where
  | done (depth place : Nat) : Layout depth place [] []
  | skip {depth place : Nat} {piece rest : List Char} {tokens : List Located}
      (skipped : Skipped depth piece rest)
      (later : Layout depth (place + Text.byteLength piece) rest tokens) :
      Layout depth place (piece ++ rest) tokens
  | token {depth place : Nat} {token : Token} {piece rest : List Char} {tokens : List Located}
      (some : piece ≠ []) (alone : tokenize 0 piece = .ok [⟨token, ⟨0, Text.byteLength piece⟩⟩])
      (later : Layout (token.depthAfter depth) (place + Text.byteLength piece) rest tokens) :
      Layout depth place (piece ++ rest)
        (Located.relocate (· + place) ⟨token, ⟨0, Text.byteLength piece⟩⟩ :: tokens)

theorem map_relocate_add (tokens : List Located) (first second : Nat) :
    (tokens.map (Located.relocate (· + first))).map (Located.relocate (· + second)) =
      tokens.map (Located.relocate (· + (second + first))) := by
  rw [List.map_map]
  refine List.map_congr_left fun next _ => (next.relocate_relocate _ _).trans ?_
  congr 1
  funext place
  exact (Nat.add_assoc ..).trans (congrArg _ (Nat.add_comm ..))

namespace LexState

variable {state : LexState} {text : List Char} {tokens : List Located}

theorem finish_inside (state : LexState) (depth : Nat) :
    (state.inside depth).finish = state.finish := by
  obtain ⟨before, _, place, scan⟩ := state
  cases scan <;> rfl

/-- Behind a token that ends, the rest of the text is read for itself. -/
theorem tokens_of_push {token : Token} {start : Nat}
    (read : (run 0 (state.push token start) text).bind finish = .ok tokens) :
    ∃ others, tokensWithin state.depth text = .ok others ∧
      tokens = state.tokens.reverse ++ ⟨token, ⟨start, state.place⟩⟩ ::
        others.map (Located.relocate (· + state.place)) := by
  obtain ⟨others, within, parts⟩ := tokens_of_idle rfl read
  refine ⟨others, within, parts.trans ?_⟩
  rw [List.reverse_cons, List.append_assoc]
  rfl

/-- The token under way ends in the text or with it, and up to there it is read alike at any depth.
The rest of the text is read for itself. -/
theorem token_ends {start : Nat} (under : state.scan.start? = some start)
    (read : (run 0 state text).bind finish = .ok tokens) :
    ∃ (token : Token) (more rest : List Char) (others : List Located), text = more ++ rest ∧
      token.Plain ∧
      (∀ depth, (run 0 (state.inside depth) more).bind finish =
        .ok (state.tokens.reverse ++ [⟨token, ⟨start, state.place + Text.byteLength more⟩⟩])) ∧
      tokensWithin state.depth rest = .ok others ∧
      tokens = state.tokens.reverse ++ ⟨token, ⟨start, state.place + Text.byteLength more⟩⟩ ::
        others.map (Located.relocate (· + (state.place + Text.byteLength more))) := by
  induction text generalizing state with
  | nil =>
      obtain ⟨token, plain, rfl⟩ := finish_of_under under read
      refine ⟨token, [], [], [], rfl, plain, fun depth => ?_, rfl, rfl⟩
      exact (finish_inside state depth).trans read
  | cons c rest ih =>
      obtain ⟨final, ran, ended⟩ := bind_eq_ok.mp read
      obtain ⟨reached, stepped, later⟩ := foldlM_cons_eq_ok.mp ran
      have readLater : (run 0 reached rest).bind finish = .ok tokens :=
        bind_eq_ok.mpr ⟨final, later, ended⟩
      cases takes_of_step stepped with
      | comment within other =>
          rw [within] at under
          cases under
      | first idle ends started =>
          rw [idle] at under
          cases under
      | more own same anywhere =>
          rw [own] at under
          cases under
          obtain ⟨token, more, rest, others, rfl, plain, alone, within, parts⟩ := ih same readLater
          have place : ∀ scan, (state.advance c scan).place + Text.byteLength more =
              state.place + Text.byteLength (c :: more) := fun _ => Nat.add_assoc ..
          rw [place] at parts
          refine ⟨token, c :: more, rest, others, rfl, plain, fun depth => ?_, within, parts⟩
          have ownRun := alone depth
          rw [place] at ownRun
          obtain ⟨final, ran, ended⟩ := bind_eq_ok.mp ownRun
          exact bind_eq_ok.mpr ⟨final, foldlM_cons_eq_ok.mpr ⟨_, anywhere depth, ran⟩, ended⟩
      | @last token start plain own anywhere =>
          rw [own] at under
          cases under
          obtain ⟨others, within, parts⟩ := tokens_of_push readLater
          refine ⟨token, [c], rest, others, rfl, plain, fun depth => ?_, within, parts⟩
          rw [← List.reverse_cons]
          exact bind_eq_ok.mpr ⟨_, foldlM_cons_eq_ok.mpr ⟨_, anywhere depth, rfl⟩, rfl⟩
      | @behind token start after plain own endedHere started =>
          rw [own] at under
          cases under
          have pushed : (run 0 (state.push token start) (c :: rest)).bind finish = .ok tokens :=
            bind_eq_ok.mpr ⟨final, foldlM_cons_eq_ok.mpr ⟨reached, started, later⟩, ended⟩
          obtain ⟨others, within, parts⟩ := tokens_of_push pushed
          refine ⟨token, [], c :: rest, others, rfl, plain, fun depth => ?_, within, parts⟩
          rw [← List.reverse_cons]
          exact (finish_inside state depth).trans endedHere

/-- Behind a first character that is no part of a token. -/
theorem tokens_behind {depth : Nat} {scan passed : Scan} {c : Char} (idle : scan.start? = none)
    (read : (run 0 (LexState.advance ⟨[], depth, 0, passed⟩ c scan) text).bind finish =
      .ok tokens) :
    ∃ others, (run 0 ⟨[], depth, 0, scan⟩ text).bind finish = .ok others ∧
      tokens = others.map (Located.relocate (· + Text.byteLength [c])) := by
  obtain ⟨others, alone, parts⟩ := tokens_of_idle idle read
  refine ⟨others, alone, ?_⟩
  rw [parts, Nat.zero_add]
  rfl

/-- A comment goes up to the end of its line. -/
theorem comment_ends {depth : Nat}
    (read : (run 0 ⟨[], depth, 0, .comment⟩ text).bind finish = .ok tokens) :
    ∃ (line rest : List Char) (others : List Located), text = line ++ rest ∧ '\n' ∉ line ∧
      (∀ c ∈ rest.head?, c = '\n') ∧ tokensWithin depth rest = .ok others ∧
      tokens = others.map (Located.relocate (· + Text.byteLength line)) := by
  induction text generalizing tokens with
  | nil =>
      cases read
      exact ⟨[], [], [], rfl, List.not_mem_nil, nofun, rfl, rfl⟩
  | cons c rest ih =>
      by_cases newline : c = '\n'
      · -- The line feed is read as it would be without the comment.
        subst newline
        have within : tokensWithin depth ('\n' :: rest) = .ok tokens := read
        refine ⟨[], _, tokens, rfl, List.not_mem_nil, fun _ => ?_, within, ?_⟩
        · exact fun first => (Option.some.inj first).symm
        · exact (List.map_id'' (fun next => next.relocate_id) tokens).symm
      · obtain ⟨final, ran, ended⟩ := bind_eq_ok.mp read
        obtain ⟨reached, stepped, later⟩ := foldlM_cons_eq_ok.mp ran
        obtain rfl : _ = reached := Except.ok.inj ((if_neg newline).symm.trans stepped)
        obtain ⟨moved, alone, rfl⟩ := tokens_behind rfl (bind_eq_ok.mpr ⟨final, later, ended⟩)
        obtain ⟨line, rest, others, rfl, sameLine, ends, within, rfl⟩ := ih alone
        refine ⟨c :: line, rest, others, rfl, ?_, ends, within, ?_⟩
        · intro member
          rcases List.mem_cons.mp member with same | member
          · exact newline same.symm
          · exact sameLine member
        · rw [map_relocate_add]
          rfl

end LexState

/-- The layout of a text that is read as it should be. Each character either is passed over, or is
the first of a comment or of a token. -/
theorem layout_of_tokensWithin {depth : Nat} {text : List Char} {tokens : List Located}
    (read : tokensWithin depth text = .ok tokens) (place : Nat) :
    Layout depth place text (tokens.map (Located.relocate (· + place))) := by
  match text with
  | [] =>
      cases read
      exact .done depth place
  | c :: rest =>
      obtain ⟨final, ran, ended⟩ := bind_eq_ok.mp read
      obtain ⟨reached, stepped, later⟩ := foldlM_cons_eq_ok.mp ran
      have readLater : (LexState.run 0 reached rest).bind LexState.finish = .ok tokens :=
        bind_eq_ok.mpr ⟨final, later, ended⟩
      cases LexState.begins_of_start stepped with
      | blank blank =>
          obtain ⟨others, within, rfl⟩ := LexState.tokens_behind rfl readLater
          rw [map_relocate_add]
          exact .skip (.blank blank) (layout_of_tokensWithin within _)
      | newline newline outside =>
          obtain ⟨others, within, rfl⟩ := LexState.tokens_behind rfl readLater
          subst newline
          rw [map_relocate_add]
          exact .skip (.newline outside) (layout_of_tokensWithin within _)
      | comment sign =>
          obtain ⟨moved, commented, rfl⟩ := LexState.tokens_behind rfl readLater
          obtain ⟨line, rest, others, rfl, sameLine, ends, within, rfl⟩ :=
            LexState.comment_ends commented
          subst sign
          rw [map_relocate_add, map_relocate_add, Nat.add_assoc]
          exact .skip (.comment sameLine ends) (layout_of_tokensWithin within _)
      | token starts anywhere =>
          obtain ⟨token, more, rest, others, rfl, plain, alone, within, rfl⟩ :=
            LexState.token_ends starts readLater
          have bytes : 0 + c.utf8Size + Text.byteLength more = Text.byteLength (c :: more) := by
            rw [Nat.zero_add]
            rfl
          have own : tokenize 0 (c :: more) =
              .ok [⟨token, ⟨0, Text.byteLength (c :: more)⟩⟩] := by
            obtain ⟨final, ran, ended⟩ := bind_eq_ok.mp (alone 0)
            rw [← bytes]
            exact bind_eq_ok.mpr ⟨final, foldlM_cons_eq_ok.mpr ⟨_, anywhere 0, ran⟩, ended⟩
          simp only [LexState.advance, List.reverse_nil, List.nil_append, List.map_cons,
            map_relocate_add, bytes]
          refine .token (List.cons_ne_nil c more) own ?_
          rw [plain]
          exact layout_of_tokensWithin within _
      | @whole token known alone =>
          obtain ⟨others, within, rfl⟩ := LexState.tokens_of_idle rfl readLater
          have bytes : 0 + c.utf8Size = Text.byteLength [c] := Nat.zero_add _
          simp only [LexState.close, LexState.push, LexState.advance, List.reverse_singleton,
            List.singleton_append, List.map_cons, map_relocate_add, bytes]
          exact .token (List.cons_ne_nil c []) alone (layout_of_tokensWithin within _)
termination_by text.length

/-- No token covers the byte at `place`. -/
def Uncovered (tokens : List Located) (place : Nat) : Prop :=
  ∀ next ∈ tokens, ¬ (next.span.start ≤ place ∧ place < next.span.stop)

/-- What a character between `before` and `after` is passed over as: a blank, a line feed while
brackets are open, or part of a comment, which goes from a number sign to the end of its line and
which no token reaches into. -/
inductive PassedOver (tokens : List Located) :
    (before : List Char) → Char → (after : List Char) → Prop where
  | blank {before after : List Char} {c : Char} (blank : c = ' ' ∨ c = '\t' ∨ c = '\r') :
      PassedOver tokens before c after
  | newline {before after : List Char} {earlier later : List Located}
      (parts : tokens = earlier ++ later)
      (behind : ∀ next ∈ earlier, next.span.stop ≤ Text.byteLength before)
      (ahead : ∀ next ∈ later, Text.byteLength before < next.span.start)
      (within : openBrackets 0 earlier ≠ 0) : PassedOver tokens before '\n' after
  | comment {start left right rest : List Char} {c : Char}
      (sign : (left ++ c :: right).head? = some '#') (sameLine : '\n' ∉ left ++ c :: right)
      (ends : ∀ c ∈ rest.head?, c = '\n')
      (apart : ∀ next ∈ tokens, next.span.stop ≤ Text.byteLength start ∨
        Text.byteLength (start ++ (left ++ c :: right)) ≤ next.span.start) :
      PassedOver tokens (start ++ left) c (right ++ rest)

theorem depthAfter_relocate (token : Token) (move : Nat → Nat) (depth : Nat) :
    (token.relocate move).depthAfter depth = token.depthAfter depth := by
  cases token <;> rfl

namespace Layout

variable {depth place : Nat} {text : List Char} {tokens : List Located}

theorem le_start (layout : Layout depth place text tokens) :
    ∀ next ∈ tokens, place ≤ next.span.start := by
  induction layout with
  | done => nofun
  | skip _ _ ih => exact fun next member => Nat.le_trans (Nat.le_add_right ..) (ih next member)
  | token _ _ _ ih =>
      intro next member
      rcases List.mem_cons.mp member with rfl | member
      · exact Nat.le_add_left ..
      · exact Nat.le_trans (Nat.le_add_right ..) (ih next member)

/-- A token is cut out of the text by its span, and it is the one token of what is cut out. -/
theorem alone_of_mem (layout : Layout depth place text tokens) {passed : List Char}
    (reached : place = Text.byteLength passed) : ∀ next ∈ tokens, ∃ piece own,
      next.span.Cuts (passed ++ text) piece ∧ tokenize 0 piece = .ok [own] ∧
        own.relocate (· + next.span.start) = next := by
  induction layout generalizing passed with
  | done => nofun
  | @skip depth place piece rest tokens _ _ ih =>
      rw [← List.append_assoc]
      exact ih (by rw [reached, Text.byteLength_append])
  | @token depth place token piece rest tokens _ alone _ ih =>
      intro next member
      rcases List.mem_cons.mp member with rfl | member
      · have start : 0 + place = place := Nat.zero_add place
        refine ⟨piece, _, ⟨passed, rest, by simp, ?_, ?_⟩, alone, ?_⟩
        · exact start.trans reached
        · rw [← reached]
          exact Nat.add_comm ..
        · exact congrArg (fun bytes => Located.relocate (· + bytes) ⟨token, _⟩) start
      · rw [← List.append_assoc]
        exact ih (by rw [reached, Text.byteLength_append]) next member

/-- A character of what is passed over between tokens. -/
theorem skipped_passedOver {piece rest passed before right : List Char} {c : Char}
    {earlier : List Located} (skipped : Skipped depth piece rest)
    (later : Layout depth (place + Text.byteLength piece) rest tokens)
    (reached : place = Text.byteLength passed) (counted : depth = openBrackets 0 earlier)
    (behind : ∀ next ∈ earlier, next.span.stop ≤ place) (whole : piece = before ++ c :: right) :
    PassedOver (earlier ++ tokens) (passed ++ before) c (right ++ rest) := by
  have ahead := later.le_start
  have only : ∀ {b : Char}, [b] = before ++ c :: right → before = [] ∧ c = b ∧ right = [] := by
    intro b single
    cases before with
    | nil =>
        cases single
        exact ⟨rfl, rfl, rfl⟩
    | cons first more => simp at single
  cases skipped with
  | blank blank =>
      obtain ⟨rfl, rfl, rfl⟩ := only whole
      exact .blank blank
  | newline within =>
      obtain ⟨rfl, rfl, rfl⟩ := only whole
      rw [List.append_nil]
      refine .newline rfl (reached ▸ behind) (fun next member => ?_) (counted ▸ within)
      rw [← reached]
      exact Nat.lt_of_lt_of_le (Nat.lt_add_of_pos_right (Text.byteLength_pos (by simp)))
        (ahead next member)
  | comment sameLine ends =>
      refine .comment ?_ ?_ ends fun next member => ?_
      · rw [← whole]
        rfl
      · rw [← whole]
        simpa using sameLine
      · rw [Text.byteLength_append, ← reached, ← whole]
        exact (List.mem_append.mp member).imp (behind next) (ahead next)

/-- A character that no token covers is passed over. -/
theorem passedOver (layout : Layout depth place text tokens) {passed before after : List Char}
    {c : Char} {earlier : List Located} (reached : place = Text.byteLength passed)
    (counted : depth = openBrackets 0 earlier) (behind : ∀ next ∈ earlier, next.span.stop ≤ place)
    (parts : text = before ++ c :: after)
    (uncovered : Uncovered tokens (place + Text.byteLength before)) :
    PassedOver (earlier ++ tokens) (passed ++ before) c after := by
  induction layout generalizing passed before earlier with
  | done => simp at parts
  | @skip depth place piece rest tokens skipped later ih =>
      rcases Text.append_eq_append_cons parts with ⟨right, whole, rfl⟩ | ⟨more, rfl, whole⟩
      · exact skipped_passedOver skipped later reached counted behind whole
      · rw [← List.append_assoc]
        refine ih (by rw [reached, Text.byteLength_append]) counted ?_ whole ?_
        · exact fun next member => Nat.le_trans (behind next member) (Nat.le_add_right ..)
        · rwa [Nat.add_assoc, ← Text.byteLength_append]
  | @token depth place token piece rest tokens some alone later ih =>
      rcases Text.append_eq_append_cons parts with ⟨right, rfl, rfl⟩ | ⟨more, rfl, whole⟩
      · -- The character is one of the token.
        refine absurd ⟨?_, ?_⟩ (uncovered _ List.mem_cons_self)
        · exact Nat.le_trans (Nat.le_of_eq (Nat.zero_add place)) (Nat.le_add_right ..)
        · have width := c.utf8Size_pos
          simp only [Located.relocate, Span.relocate, Text.byteLength_append, Text.byteLength_cons]
          omega
      · rw [← List.append_assoc, ← List.singleton_append, ← List.append_assoc earlier]
        refine ih (by rw [reached, Text.byteLength_append]) ?_ ?_ whole ?_
        · rw [openBrackets_concat, ← counted]
          exact (depthAfter_relocate token _ depth).symm
        · intro next member
          rcases List.mem_append.mp member with member | last
          · exact Nat.le_trans (behind next member) (Nat.le_add_right ..)
          · rw [List.mem_singleton.mp last]
            exact Nat.le_of_eq (Nat.add_comm ..)
        · rw [Nat.add_assoc, ← Text.byteLength_append]
          exact fun next member => uncovered next (List.mem_cons_of_mem _ member)

end Layout

/-- Every token of a text covers characters of it, none of which another token covers, and stands
there as it would alone; all that is left are blanks, comments, and line feeds inside of brackets.
Text in front of it moves the tokens and changes nothing else. -/
theorem tokenize_covers {text : String} {tokens : List Located}
    (lexed : tokenize 0 text.toList = .ok tokens) :
    (∀ next ∈ tokens, next.span.start < next.span.stop ∧ next.span.Sliceable text) ∧
    tokens.Pairwise (fun next later => next.span.start < later.span.start ∧
      next.span.stop ≤ later.span.start) ∧
    (∀ before c after, text.toList = before ++ c :: after →
      Uncovered tokens (Text.byteLength before) → PassedOver tokens before c after) ∧
    (∀ next ∈ tokens, ∃ own,
      tokenize 0 (bytesBetween text next.span.start next.span.stop).toList = .ok [own] ∧
        own.relocate (· + next.span.start) = next) ∧
    ∀ base, tokenize base text.toList = .ok (tokens.map (Located.relocate (· + base))) := by
  have layout : Layout 0 0 text.toList tokens := by
    have laid := layout_of_tokensWithin lexed 0
    rwa [List.map_id'' fun next => next.relocate_id] at laid
  have read := tokens_of_tokenize lexed
  refine ⟨fun next member => ?_, ?_, fun before c after parts uncovered => ?_,
    fun next member => ?_, fun base => ?_⟩
  · obtain ⟨piece, some, cuts, _⟩ := read.stand next member
    exact ⟨cuts.lt some, cuts.sliceable⟩
  · refine read.sorted.imp_of_mem fun first _ ordered => ⟨?_, ordered⟩
    obtain ⟨piece, some, cuts, _⟩ := read.stand _ first
    exact Nat.lt_of_lt_of_le (cuts.lt some) ordered
  · have uncoveredHere : Uncovered tokens (0 + Text.byteLength before) := by
      rwa [Nat.zero_add]
    exact layout.passedOver Text.byteLength_nil.symm rfl (List.forall_mem_nil _) parts uncoveredHere
  · obtain ⟨piece, own, cuts, alone, same⟩ :=
      layout.alone_of_mem Text.byteLength_nil.symm next member
    rw [cuts.bytesBetween_eq, String.toList_ofList]
    exact ⟨own, alone, same⟩
  · have shifted := ok_of_toOption (tokenize_shift 0 base text.toList) lexed
    rwa [Nat.zero_add] at shifted

/-- A comment between brackets, behind a format string. -/
theorem tokenize_covers_comment : ∃ tokens,
    tokenize 0 "x = [f\"é\", # ü\n 1.5]\n".toList = .ok tokens ∧
    tokens.map Located.span =
      [⟨0, 1⟩, ⟨2, 3⟩, ⟨4, 5⟩, ⟨5, 10⟩, ⟨10, 11⟩, ⟨18, 21⟩, ⟨21, 22⟩, ⟨22, 23⟩] ∧
    Uncovered tokens 16 ∧
    PassedOver tokens "x = [f\"é\", # ü".toList '\n' " 1.5]\n".toList ∧
    (∃ next ∈ tokens, next.span = ⟨5, 10⟩ ∧ ∃ own, tokenize 0 "f\"é\"".toList = .ok [own] ∧
      own.relocate (· + 5) = next) ∧
    tokenize 40 "x = [f\"é\", # ü\n 1.5]\n".toList =
      .ok (tokens.map (Located.relocate (· + 40))) := by
  obtain ⟨tokens, lexed, spans⟩ : ∃ tokens,
      tokenize 0 "x = [f\"é\", # ü\n 1.5]\n".toList = .ok tokens ∧ tokens.map Located.span =
        [⟨0, 1⟩, ⟨2, 3⟩, ⟨4, 5⟩, ⟨5, 10⟩, ⟨10, 11⟩, ⟨18, 21⟩, ⟨21, 22⟩, ⟨22, 23⟩] :=
    ⟨_, rfl, rfl⟩
  have uncovered : Uncovered tokens 16 := by
    have apart : ∀ span ∈ tokens.map Located.span, ¬ (span.start ≤ 16 ∧ 16 < span.stop) := by
      rw [spans]
      decide
    exact fun next member => apart _ (List.mem_map_of_mem member)
  obtain ⟨next, member, span⟩ : ∃ next ∈ tokens, next.span = ⟨5, 10⟩ := by
    rw [← List.mem_map, spans]
    decide
  obtain ⟨_, _, passedOver, alone, moved⟩ := tokenize_covers lexed
  obtain ⟨own, read, same⟩ := alone next member
  have piece : bytesBetween "x = [f\"é\", # ü\n 1.5]\n" 5 10 = "f\"é\"" := by decide +kernel
  rw [span] at same read
  rw [piece] at read
  exact ⟨tokens, lexed, spans, uncovered, passedOver _ _ _ rfl uncovered,
    ⟨next, member, span, own, read, same⟩, moved 40⟩

end LiteratePages.Code
