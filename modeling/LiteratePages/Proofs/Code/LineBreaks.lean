import LiteratePages.Proofs.Code.TokenBoundaries
import LiteratePages.Proofs.Code.Unplacing

/-!
Where a line can be broken inside of brackets. In round and square brackets a line feed between two
tokens means nothing. Inside of a map alone a line can be broken next to a comma, to a colon and to
the brackets of the map, and a line feed at any other place, as before an operator, is an error.
-/
namespace LiteratePages.Code

namespace ExprState

variable {format : List Char → Nat → Except SyntaxError (List Piece)}
  {state after broken : ExprState} {frames : List Frame} {e : Expr} {next : Located} {last : Token}
  {move : ExprMove} {span : Span}

/-- A line feed ends a key or an entry, and the map can only go on as it would without. -/
theorem breaksBefore_of_closeFrame_newline
    (closed : closeFrame e frames ⟨.newline, span⟩ = .ok (.more broken))
    (later : broken.feed format next = .ok move) : next.token.breaksBefore = true := by
  obtain ⟨token, _⟩ := next
  cases frames with
  | nil => cases closed
  | cons frame rest =>
      cases frame with
      | key | entry =>
          cases closed
          cases token <;> first | rfl | cases later
      | _ => cases closed

theorem breaks_of_feed_newline (follows : state.phase.Follows last)
    (fed : state.feed format ⟨.newline, span⟩ = .ok (.more broken))
    (later : broken.feed format next = .ok move) :
    last.breaksAfter = true ∨ next.token.breaksBefore = true := by
  cases step_of_feed fed with
  | operand wanted started => cases started
  | sign worded => cases worded
  | keyLine | colonLine | entryLine | entryEndLine => exact .inl follows
  | close start closed => exact .inr (breaksBefore_of_closeFrame_newline closed later)

theorem closeFrame_newline (inside : frames.filterMap Frame.bracket? ≠ [])
    (uncounted : ∀ bracket ∈ frames.filterMap Frame.bracket?, bracket.counted = false)
    (closed : closeFrame e frames next = .ok (.more after))
    (before : next.token.breaksBefore = true) (span : Span) :
    ∃ broken, closeFrame e frames ⟨.newline, span⟩ = .ok (.more broken) ∧
      broken.feed format next = .ok (.more after) := by
  obtain ⟨token, place⟩ := next
  cases frames with
  | nil => exact absurd rfl inside
  | cons frame rest =>
      cases frame with
      | group | call | list | index => cases uncounted _ List.mem_cons_self
      | unary | binary => cases closed
      | key =>
          cases token with
          | newline | colon => exact ⟨_, rfl, closed⟩
          | _ => cases closed
      | entry =>
          cases token with
          | newline | comma | closeBrace => exact ⟨_, rfl, closed⟩
          | _ => cases closed

/-- Where a line can be broken in a map, an expression goes on behind a line feed as it would
without. -/
theorem feed_newline_of_breaks (follows : state.phase.Follows last) (inside : state.brackets ≠ [])
    (uncounted : ∀ bracket ∈ state.brackets, bracket.counted = false)
    (fed : state.feed format next = .ok (.more after))
    (breaks : last.breaksAfter = true ∨ next.token.breaksBefore = true) (span : Span) :
    ∃ broken, state.feed format ⟨.newline, span⟩ = .ok (.more broken) ∧
      broken.feed format next = .ok (.more after) := by
  obtain ⟨phase, frames⟩ := state
  cases phase with
  | key | colon | entry | entryEnd => exact ⟨_, rfl, fed⟩
  | item | argument => cases uncounted _ List.mem_cons_self
  | operand =>
      obtain ⟨token, place⟩ := next
      rcases breaks with behind | before
      · rw [follows.2] at behind
        cases behind
      · cases token with
        | closeBrace | comma | colon | newline => cases fed
        | _ => cases before
  | after e start =>
      have before : next.token.breaksBefore = true :=
        breaks.resolve_left (by rw [Token.not_breaksAfter follows]; nofun)
      have brackets : brackets ⟨.after e start, frames⟩ =
        (reduce 0 frames e).2.filterMap Frame.bracket? := (brackets_reduce 0 frames e).symm
      rw [brackets] at inside uncounted
      obtain ⟨token, place⟩ := next
      have closed : closeFrame (reduce 0 frames e).1 (reduce 0 frames e).2 ⟨token, place⟩ =
          .ok (.more after) := by
        cases token with
        | closeBrace | comma | colon | newline => exact fed
        | _ => cases before
      exact closeFrame_newline inside uncounted closed before span

end ExprState

namespace ParseState

variable {state after : ParseState} {next : Located} {nesting : Nesting} {rest : List Located}

theorem complete?_cons (stepped : state.step next = .ok after) (rest : List Located) :
    state.complete? (next :: rest) = after.complete? rest := by
  rw [complete?, List.foldlM_cons, stepped]
  rfl

theorem complete?_cons_error {error : SyntaxError} (stepped : state.step next = .error error)
    (rest : List Located) : state.complete? (next :: rest) = none := by
  rw [complete?, List.foldlM_cons, stepped]
  rfl

/-- What is open besides blocks is open in the expression under way. -/
theorem expr_of_inLiteral (nests : state.Nests nesting) (inside : nesting.InLiteral) :
    ∃ goal expr, state.phase = .expr goal expr ∧ expr.brackets ≠ [] ∧
      ∀ bracket ∈ expr.brackets, bracket ∈ nesting.brackets := by
  obtain ⟨bracket, member, other⟩ := inside
  rw [nests.1] at member ⊢
  have own : bracket ∈ state.phase.brackets := by
    rcases List.mem_append.mp member with own | outside
    · exact own
    · obtain ⟨_, _, block⟩ := List.mem_map.mp outside
      exact absurd block.symm other
  cases reached : state.phase with
  | expr goal expr =>
      rw [reached] at own
      refine ⟨goal, expr, rfl, List.ne_nil_of_mem own, ?_⟩
      intro bracket inner
      rw [ParseState.brackets, reached]
      exact List.mem_append_left _ inner
  | _ =>
      rw [reached] at own
      cases own

theorem step_expr {goal : Goal} {expr moved : ExprState} {statements : List Statement}
    {outer : List Outer} {last : Nat} (fed : expr.feed readFormat next = .ok (.more moved)) :
    step ⟨.expr goal expr, statements, outer, last⟩ next =
      .ok ⟨.expr goal moved, statements, outer, next.span.stop⟩ := by
  rw [step, read_more rfl fed]
  rfl

theorem step_expr_error {goal : Goal} {expr : ExprState} {statements : List Statement}
    {outer : List Outer} {last : Nat} {error : SyntaxError}
    (refused : expr.feed readFormat next = .error error) :
    step ⟨.expr goal expr, statements, outer, last⟩ next = .error error := by
  simp only [step, read, feedExpr, refused]
  rfl

/-- Inside of maps alone a line feed is passed over where a line can be broken, and is an error
anywhere else. -/
theorem complete?_newline_in_map (nests : state.Nests nesting) (inside : nesting.InLiteral)
    (uncounted : ¬ nesting.InCounted) (stepped : state.step next = .ok after) (span : Span)
    (rest : List Located) :
    state.complete? (⟨.newline, span⟩ :: next :: rest) =
      if nesting.Breaks next.token then state.complete? (next :: rest) else none := by
  obtain ⟨goal, expr, reading, within, among⟩ := expr_of_inLiteral nests inside
  have follows : expr.phase.Follows nesting.last := by
    have all := nests.2
    rwa [reading] at all
  have plain : ∀ bracket ∈ expr.brackets, bracket.counted = false :=
    fun bracket member => Bool.eq_false_iff.mpr fun counted =>
      uncounted ⟨bracket, among bracket member, counted⟩
  -- With a bracket open the expression cannot end.
  have unended : ∀ {next e}, expr.feed readFormat next ≠ .ok (.done e) :=
    fun done => within (ExprState.complete_of_feed_done done).brackets
  obtain ⟨phase, statements, outer, last⟩ := state
  cases reading
  obtain ⟨moved, fed⟩ : ∃ moved, expr.feed readFormat next = .ok (.more moved) := by
    cases fed : expr.feed readFormat next with
    | error error =>
        rw [step_expr_error fed] at stepped
        cases stepped
    | ok move =>
        cases move with
        | more moved => exact ⟨moved, rfl⟩
        | done e => exact absurd fed unended
  by_cases breaks : nesting.Breaks next.token
  · obtain ⟨broken, line, later⟩ := ExprState.feed_newline_of_breaks follows within plain fed
      (breaks.resolve_left uncounted) span
    rw [if_pos breaks, complete?_cons (step_expr line), complete?_cons (step_expr later),
      complete?_cons (step_expr fed)]
  · rw [if_neg breaks]
    cases line : expr.feed readFormat ⟨.newline, span⟩ with
    | error error => exact complete?_cons_error (step_expr_error line) _
    | ok move =>
        cases move with
        | done e => exact absurd line unended
        | more broken =>
            rw [complete?_cons (step_expr line)]
            cases later : broken.feed readFormat next with
            | error error => exact complete?_cons_error (step_expr_error later) _
            | ok move =>
                exact absurd (.inr (ExprState.breaks_of_feed_newline follows line later)) breaks

/-- A line feed inside of brackets is no token, or is passed over, or is an error. -/
theorem complete?_lineBreak (nests : state.Nests nesting) (inside : nesting.InLiteral)
    (stepped : state.step next = .ok after) (place : Nat) (rest : List Located) :
    state.complete? (lineBreak nesting.depth place ++ next :: rest) =
      if nesting.Breaks next.token then state.complete? (next :: rest) else none := by
  by_cases counted : nesting.InCounted
  · have deep : nesting.depth ≠ 0 := mt Nesting.depth_eq_zero_iff.mp (not_not_intro counted)
    rw [lineBreak, if_neg deep, if_pos (.inl counted)]
    rfl
  · rw [lineBreak, if_pos (Nesting.depth_eq_zero_iff.mpr counted)]
    exact complete?_newline_in_map nests inside counted stepped _ rest

end ParseState

/-- Breaking a line depends on what the next token is, and not on where it stands. -/
theorem breaks_alike {nesting : Nesting} {next twin : Located}
    (alike : next.relocate unplace = twin.relocate unplace) :
    nesting.Breaks next.token ↔ nesting.Breaks twin.token := by
  have kept : ∀ next : Located, (next.relocate unplace).token.breaksBefore =
      next.token.breaksBefore := by
    intro next
    obtain ⟨token, span⟩ := next
    cases token <;> rfl
  rw [Nesting.Breaks, Nesting.Breaks, ← kept, alike, kept]

section

variable {before after : List Char} {earlier later : List Located} {previous next : Located}

/-- A text in which a line is broken at a boundary is read as before up to the boundary. Behind it
come the line feed, where it is a token, and the other tokens, moved. -/
theorem Boundary.ofChars_newline (boundary : Boundary before after earlier previous next later)
    {state : ParseState}
    (read : (earlier ++ [previous]).foldlM ParseState.step .initial = .ok state) :
    ∃ moved : List Located, moved.map (Located.relocate unplace) =
        (next :: later).map (Located.relocate unplace) ∧
      ∀ broken, Program.ofChars (before ++ '\n' :: after) = .ok broken ↔
        state.complete? (lineBreak (openBrackets 0 (earlier ++ [previous]))
          (Text.byteLength before) ++ moved) = some broken := by
  obtain ⟨others, rest, lexed⟩ := boundary.lexed_newline
  refine ⟨others.map (Located.relocate (· + (Text.byteLength before + 1))), ?_, ?_⟩
  · rw [rest, List.map_map, List.map_map]
    refine List.map_congr_left fun next _ => ?_
    rw [Function.comp, Function.comp, Located.relocate_relocate, Located.relocate_relocate]
    rfl
  · intro broken
    rw [ofChars_eq_ok_iff, lexed, ← ParseState.complete?_append read, List.append_assoc]
    simp only [Except.ok.injEq, exists_eq_left']

/-- Where a line of a program is broken inside of brackets, the text makes up the same program up to
places, or none. -/
theorem Boundary.ofChars_broken (boundary : Boundary before after earlier previous next later)
    {program : Program} (accepted : Program.ofChars (before ++ after) = .ok program) :
    ∃ nesting twin, Nesting.of? (earlier ++ [previous]) = some nesting ∧
      twin.unplaced = program.unplaced ∧ (nesting.InLiteral → ∀ broken,
        Program.ofChars (before ++ '\n' :: after) = .ok broken ↔
          nesting.Breaks next.token ∧ broken = twin) := by
  obtain ⟨tokens, lexed, complete⟩ := ofChars_eq_ok_iff.mp accepted
  obtain rfl : earlier ++ previous :: next :: later = tokens :=
    Except.ok.inj (boundary.lexed.symm.trans lexed)
  obtain ⟨final, read, ended⟩ := ParseState.complete?_eq_some.mp complete
  rw [← List.singleton_append, ← List.append_assoc] at read complete
  obtain ⟨state, here, _⟩ := foldlM_append_eq_ok.mp read
  obtain ⟨nesting, nested, nests⟩ := ParseState.run_nests here
  obtain ⟨moved, alike, reads⟩ := boundary.ofChars_newline here
  -- The tokens behind the line feed make up the same program, moved.
  rw [ParseState.complete?_append here] at complete
  have twins : (state.complete? moved).map Program.unplaced =
      (state.complete? (next :: later)).map Program.unplaced := ParseState.complete?_alike rfl alike
  rw [complete] at twins
  obtain ⟨twin, completeTwin, same⟩ := Option.map_eq_some_iff.mp twins
  refine ⟨nesting, twin, nested, same, fun inside broken => ?_⟩
  obtain ⟨nextMoved, laterMoved, rfl, first, _⟩ := List.map_eq_cons_iff.mp alike
  obtain ⟨reached, stepped, _⟩ := ParseState.complete?_cons_eq_some.mp completeTwin
  have outcome := ParseState.complete?_lineBreak nests inside stepped (Text.byteLength before)
    laterMoved
  rw [completeTwin, Nesting.depth_of? nested] at outcome
  simp only [reads, outcome, breaks_alike first]
  by_cases breaks : nesting.Breaks next.token
  · simp [breaks, eq_comm]
  · simp [breaks]

end

/-- Where a line of a program is broken inside of brackets, the program stays the same or there is
none: in a map alone it can be broken next to commas, colons and the brackets of the map only. -/
theorem parse_line_break_iff {before after : String} {earlier later : List Located}
    {previous next : Located} {program : Program}
    (accepted : Program.parse (before ++ after) = .ok program)
    (boundary : Boundary before.toList after.toList earlier previous next later) :
    ∃ nesting, Nesting.of? (earlier ++ [previous]) = some nesting ∧ (nesting.InLiteral →
      (∀ broken, Program.parse (before ++ "\n" ++ after) = .ok broken →
        broken.unplaced = program.unplaced) ∧
      ((∃ broken, Program.parse (before ++ "\n" ++ after) = .ok broken) ↔
        nesting.Breaks next.token)) := by
  have withLine : (before ++ "\n" ++ after).toList = before.toList ++ '\n' :: after.toList := by
    simp
  rw [Program.parse, String.toList_append] at accepted
  rw [Program.parse, withLine]
  obtain ⟨nesting, twin, nested, same, reads⟩ := boundary.ofChars_broken accepted
  refine ⟨nesting, nested, fun inside => ⟨?_, ?_⟩⟩
  · intro broken parsed
    obtain ⟨_, rfl⟩ := (reads inside broken).mp parsed
    exact same
  · simp only [reads inside, exists_and_left, exists_eq, and_true]

/-- Before an operator a line can be broken in the arguments of a call, also within a map. -/
theorem parse_line_break_iff_argument :
    ∃ program broken, Program.parse ("x = \x7b\"a\": f(b" ++ "+ c)\x7d") = .ok program ∧
      Program.parse ("x = \x7b\"a\": f(b" ++ "\n" ++ "+ c)\x7d") = .ok broken ∧
      broken.unplaced = program.unplaced := by
  have boundary : Boundary "x = \x7b\"a\": f(b".toList "+ c)\x7d".toList
      [⟨.name "x", ⟨0, 1⟩⟩, ⟨.assign, ⟨2, 3⟩⟩, ⟨.openBrace, ⟨4, 5⟩⟩, ⟨.string "a", ⟨5, 8⟩⟩,
        ⟨.colon, ⟨8, 9⟩⟩, ⟨.name "f", ⟨10, 11⟩⟩, ⟨.openParen, ⟨11, 12⟩⟩]
      ⟨.name "b", ⟨12, 13⟩⟩ ⟨.operator .add false, ⟨13, 14⟩⟩
      [⟨.name "c", ⟨15, 16⟩⟩, ⟨.closeParen, ⟨16, 17⟩⟩, ⟨.closeBrace, ⟨17, 18⟩⟩] :=
    ⟨rfl, by decide, by decide, Boundary.uncommented_of_not_mem (by decide)⟩
  obtain ⟨nesting, nested, breaks⟩ := parse_line_break_iff rfl boundary
  cases nested
  obtain ⟨same, accepts⟩ := breaks ⟨.map, by decide⟩
  obtain ⟨broken, accepted⟩ := accepts.mpr (by decide)
  exact ⟨_, broken, rfl, accepted, same broken accepted⟩

/-- Before an operator a line cannot be broken in a map. -/
theorem line_break_refused_in_map :
    ∃ (earlier later : List Located) (previous next : Located) (program : Program)
      (nesting : Nesting),
      Program.parse ("x = \x7b\"a\": b" ++ "+ c\x7d") = .ok program ∧
      Boundary "x = \x7b\"a\": b".toList "+ c\x7d".toList earlier previous next later ∧
      Nesting.of? (earlier ++ [previous]) = some nesting ∧ .map ∈ nesting.brackets ∧
      Program.parse ("x = \x7b\"a\": b" ++ "\n" ++ "+ c\x7d") =
        .error ⟨.expectedEntryEnd, ⟨12, 13⟩⟩ := by
  refine ⟨[⟨.name "x", ⟨0, 1⟩⟩, ⟨.assign, ⟨2, 3⟩⟩, ⟨.openBrace, ⟨4, 5⟩⟩, ⟨.string "a", ⟨5, 8⟩⟩,
      ⟨.colon, ⟨8, 9⟩⟩],
    [⟨.name "c", ⟨13, 14⟩⟩, ⟨.closeBrace, ⟨14, 15⟩⟩], ⟨.name "b", ⟨10, 11⟩⟩,
    ⟨.operator .add false, ⟨11, 12⟩⟩, _, _, rfl, ?_, rfl, by decide, rfl⟩
  exact ⟨rfl, by decide, by decide, Boundary.uncommented_of_not_mem (by decide)⟩

end LiteratePages.Code
