import LiteratePages.Proofs.Code.Nesting
import LiteratePages.Proofs.Code.ProgramRelocation

namespace LiteratePages.Code

/-- Bodies of which the outermost has more statements at its start. -/
def followingOuter (before : List Statement) : List Outer → List Outer
  | [] => []
  | [outermost] => [⟨outermost.opener, before ++ outermost.statements⟩]
  | block :: next :: rest => block :: followingOuter before (next :: rest)

namespace ParseState

/-- The state in a program that starts with other statements. -/
def following (before : List Statement) (state : ParseState) : ParseState :=
  match state.outer with
  | [] => { state with statements := before ++ state.statements }
  | outer => { state with outer := followingOuter before outer }

variable {before : List Statement}

theorem goto_following (state : ParseState) (phase : Phase) :
    (state.goto phase).following before = (state.following before).goto phase := by
  obtain ⟨_, statements, outer, last⟩ := state
  cases outer <;> rfl

theorem add_following (state : ParseState) (statement : Statement) :
    (state.add statement).following before = (state.following before).add statement := by
  obtain ⟨_, statements, outer, last⟩ := state
  cases outer with
  | nil => simp [following, add]
  | cons block rest => rfl

theorem openBlock_following (state : ParseState) (opener : Opener) :
    (state.openBlock opener).following before = (state.following before).openBlock opener := by
  obtain ⟨_, statements, outer, last⟩ := state
  cases outer <;> rfl

theorem last_following (state : ParseState) : (state.following before).last = state.last := by
  obtain ⟨_, statements, outer, last⟩ := state
  cases outer <;> rfl

theorem phase_following (before : List Statement) (state : ParseState) :
    (state.following before).phase = state.phase := by
  obtain ⟨_, statements, outer, last⟩ := state
  cases outer <;> rfl

/-- Something that is done with a state whatever statements come before it. -/
def Unaware (before : List Statement) (action : ParseState → Except SyntaxError ParseState) :
    Prop :=
  ∀ state, (action (state.following before)).toOption =
    (action state).toOption.map (following before)

theorem unaware_goto (phase : Phase) : Unaware before fun state => .ok (state.goto phase) :=
  fun state => congrArg some (goto_following state phase).symm

theorem unaware_error (error : SyntaxError) : Unaware before fun _ => .error error := fun _ => rfl

theorem unaware_closeBrace (stop : Nat) {outside : ParseState → Except SyntaxError ParseState}
    (unopened : Unaware before outside) :
    Unaware before fun state => match state.outer with
      | block :: rest => .ok (state.closeBlock block rest stop)
      | [] => outside state := by
  intro state
  obtain ⟨phase, statements, outer, last⟩ := state
  cases outer with
  | nil => exact unopened ⟨phase, statements, [], last⟩
  | cons block rest =>
      obtain ⟨opener, outerStatements⟩ := block
      cases rest with
      | nil =>
          cases opener <;> simp [following, followingOuter, closeBlock, goto, add, Except.toOption]
      | cons next rest => cases opener <;> rfl

theorem unaware_atEnd (next : Located) : Unaware before (·.atEnd next) := by
  obtain ⟨token, span⟩ := next
  cases token with
  | newline | semicolon => exact unaware_goto .start
  | closeBrace => exact unaware_closeBrace span.stop (unaware_error _)
  | _ => exact unaware_error _

theorem unaware_startExpr (next : Located) : Unaware before (·.startExpr next) := by
  unfold startExpr
  cases ExprState.startOperand readFormat [] next with
  | ok expr => exact unaware_goto _
  | error error => exact unaware_error error

theorem unaware_atStart (next : Located) : Unaware before (·.atStart next) := by
  have first : Unaware before (·.startExpr next) := unaware_startExpr next
  obtain ⟨token, span⟩ := next
  cases token with
  | newline | semicolon | ifWord | forWord | name => exact unaware_goto _
  | elseWord => exact unaware_error _
  | closeBrace => exact unaware_closeBrace span.stop first
  | _ => exact first

theorem unaware_add {action : ParseState → Except SyntaxError ParseState}
    (unaware : Unaware before action) (statement : Statement) :
    Unaware before fun state => action (state.add statement) := by
  intro state
  have added := unaware (state.add statement)
  rwa [add_following] at added

theorem unaware_openBlock (opener : Opener) :
    Unaware before fun state => .ok (state.openBlock opener) :=
  fun state => congrArg some (openBlock_following state opener).symm

theorem unaware_conclude (goal : Goal) (e : Expr) (next : Located) :
    Unaware before (·.conclude goal e next) := by
  intro state
  have ended : ∀ statement, (((state.following before).add statement).atEnd next).toOption =
      ((state.add statement).atEnd next).toOption.map (following before) :=
    fun statement => unaware_add (unaware_atEnd next) statement state
  obtain ⟨token, span⟩ := next
  cases goal with
  | statement start =>
      cases token with
      | assign => rfl
      | _ =>
          simp only [conclude, last_following]
          exact ended _
  | assignment start name =>
      simp only [conclude, last_following]
      exact ended _
  | condition start branches =>
      cases token with
      | openBrace => exact unaware_openBlock _ state
      | _ => rfl
  | source start name =>
      cases token with
      | openBrace => exact unaware_openBlock _ state
      | _ => rfl

theorem unaware_feedExpr (goal : Goal) (expr : ExprState) (next : Located) :
    Unaware before (·.feedExpr goal expr next) := by
  unfold feedExpr
  cases expr.feed readFormat next with
  | error error => exact unaware_error error
  | ok stepped =>
      cases stepped with
      | more after => exact unaware_goto _
      | done e => exact unaware_conclude goal e next

theorem unaware_read (next : Located) : Unaware before (·.read next) := by
  intro state
  have phase := phase_following before state
  obtain ⟨token, span⟩ := next
  cases reached : state.phase with
  | start =>
      simp only [read, phase, reached]
      exact unaware_atStart _ state
  | ended =>
      simp only [read, phase, reached]
      exact unaware_atEnd _ state
  | name text place =>
      simp only [read, phase, reached]
      cases token with
      | assign => exact unaware_goto _ state
      | _ => exact unaware_feedExpr _ _ _ state
  | expr goal expr =>
      simp only [read, phase, reached]
      exact unaware_feedExpr goal expr _ state
  | loopName start =>
      simp only [read, phase, reached]
      cases token with
      | name => exact unaware_goto _ state
      | _ => rfl
  | loopIn start name =>
      simp only [read, phase, reached]
      cases token with
      | inWord => exact unaware_goto _ state
      | _ => rfl
  | afterElse start branches =>
      simp only [read, phase, reached]
      cases token with
      | ifWord => exact unaware_goto _ state
      | openBrace => exact unaware_openBlock _ state
      | _ => rfl
  | branchEnd start stop branches laterLine =>
      let ended := Statement.cond branches none ⟨start, stop⟩
      have sameLine : Unaware before fun state => (state.add ended).atEnd ⟨token, span⟩ :=
        unaware_add (unaware_atEnd _) ended
      have later : Unaware before fun state => (state.add ended).atStart ⟨token, span⟩ :=
        unaware_add (unaware_atStart _) ended
      simp only [read, phase, reached]
      cases token with
      | newline | elseWord => exact unaware_goto _ state
      | _ =>
          cases laterLine with
          | false => exact sameLine state
          | true => exact later state

theorem unaware_step (next : Located) : Unaware before (·.step next) := by
  intro state
  refine bind_toOption (unaware_read next state) fun reached => ?_
  obtain ⟨phase, statements, outer, last⟩ := reached
  cases outer <;> rfl

theorem programEnd_following (state : ParseState) :
    (state.following before).programEnd.toOption =
      state.programEnd.toOption.map (before ++ ·) := by
  obtain ⟨phase, statements, outer, last⟩ := state
  cases outer with
  | nil => rfl
  | cons block rest => cases rest <;> rfl

theorem finish_following (state : ParseState) :
    (state.following before).finish.toOption = state.finish.toOption.map (before ++ ·) := by
  have ended : ∀ statement, ((state.following before).add statement).programEnd.toOption =
      (state.add statement).programEnd.toOption.map (before ++ ·) := by
    intro statement
    rw [← add_following]
    exact programEnd_following _
  have phase := phase_following before state
  cases reached : state.phase with
  | start | ended =>
      simp only [finish, phase, reached]
      exact programEnd_following state
  | name text span =>
      simp only [finish, phase, reached, last_following]
      exact ended _
  | expr goal expr =>
      simp only [finish, phase, reached, last_following]
      cases expr.finish with
      | error cause => rfl
      | ok e =>
          cases goal with
          | statement start => exact ended _
          | assignment start name => exact ended _
          | condition | source => rfl
  | branchEnd start stop branches laterLine =>
      simp only [finish, phase, reached]
      exact ended _
  | _ =>
      simp only [finish, phase, reached]
      rfl

/-- A program that more statements come before is read after them. -/
theorem complete?_following (before : List Statement) (state : ParseState) (tokens : List Located) :
    (state.following before).complete? tokens = (state.complete? tokens).map (before ++ ·) := by
  have folded := foldlM_toOption (following before) id (fun state next => unaware_step next state)
    tokens state
  rw [List.map_id] at folded
  unfold complete?
  rcases outcomes_of_toOption folded with ⟨after, read, moved⟩ | ⟨_, _, read, moved⟩
  · rw [read, moved]
    exact finish_following after
  · rw [read, moved]
    rfl

theorem complete?_cons_eq_some {state : ParseState} {next : Located} {rest : List Located}
    {program : Program} :
    state.complete? (next :: rest) = some program ↔
      ∃ after, state.step next = .ok after ∧ after.complete? rest = some program := by
  unfold complete?
  rw [List.foldlM_cons]
  cases state.step next with
  | error error => simp [Except.toOption, bind, Except.bind]
  | ok after => simp [bind, Except.bind]

theorem complete?_eq_some {state : ParseState} {tokens : List Located} {program : Program} :
    state.complete? tokens = some program ↔
      ∃ after, tokens.foldlM step state = .ok after ∧ after.finish = .ok program := by
  unfold complete?
  cases tokens.foldlM step state with
  | error error => simp [Except.toOption]
  | ok after => cases ended : after.finish <;> simp [Except.toOption, ended]

theorem complete?_append {state after : ParseState} {tokens rest : List Located}
    (read : tokens.foldlM step state = .ok after) :
    state.complete? (tokens ++ rest) = after.complete? rest := by
  rw [complete?, List.foldlM_append, read]
  rfl

/-- After a condition with its block, an `else` on a later line would still belong to it. All other
tokens are read as at the start of a statement. -/
theorem complete?_branchEnd {start stop last : Nat} {branches : List (Expr × List Statement)}
    {statements : List Statement} {tokens : List Located} {program : Program}
    (complete : complete? ⟨.start, statements ++ [.cond branches none ⟨start, stop⟩], [], last⟩
      tokens = some program) :
    complete? ⟨.branchEnd start stop branches true, statements, [], last⟩ tokens =
      some program := by
  -- Line feeds keep the state waiting for an `else`; the first other token settles it.
  induction tokens generalizing last with
  | nil => exact complete
  | cons next rest ih =>
      obtain ⟨after, stepped, later⟩ := complete?_cons_eq_some.mp complete
      obtain ⟨token, span⟩ := next
      cases token with
      | newline =>
          cases stepped
          exact complete?_cons_eq_some.mpr ⟨_, rfl, ih later⟩
      | elseWord => cases stepped
      | _ => exact complete?_cons_eq_some.mpr ⟨after, stepped, later⟩

/-- A line feed after a complete program ends its last statement, so that what follows is read as at
the start of a file, after the statements of the program. -/
theorem complete?_newline {state : ParseState} {program whole : Program} {span : Span}
    {tokens : List Located} (ended : state.finish = .ok program)
    (complete : complete? ⟨.start, program, [], span.stop⟩ tokens = some whole) :
    state.complete? (⟨.newline, span⟩ :: tokens) = some whole := by
  obtain ⟨outermost, body⟩ := finish_eq_ok_iff.mp ended
  cases awaits : state.phase.awaitsElse with
  | false =>
      refine complete?_cons_eq_some.mpr ⟨_, ?_, complete⟩
      rw [step, body.read_separator (.inr ⟨rfl, awaits⟩) span, outermost]
      rfl
  | true =>
      cases body with
      | branch =>
          cases outermost
          exact complete?_cons_eq_some.mpr ⟨_, rfl, complete?_branchEnd complete⟩
      | statement reading | assignment reading =>
          rw [awaitsElse_of_expression? reading] at awaits
          cases awaits
      | start | ended => cases awaits

end ParseState

/-- The token that a line feed at byte `place` is; inside brackets it is none. -/
def lineBreak (depth place : Nat) : List Located :=
  if depth = 0 then [⟨.newline, ⟨place, place + 1⟩⟩] else []

/-- A line feed ends the token under way. -/
theorem LexState.step_newline {state : LexState} {tokens : List Located} {base : Nat}
    (ended : state.finish = .ok tokens) :
    state.step base '\n' = .ok
      ⟨lineBreak state.depth state.place ++ tokens.reverse, state.depth, state.place + 1,
        .between⟩ := by
  have started : ∀ other : LexState, other.start '\n' = .ok
      ⟨lineBreak other.depth other.place ++ other.tokens, other.depth, other.place + 1,
        .between⟩ := by
    rintro ⟨before, depth, place, scan⟩
    cases depth <;> rfl
  obtain ⟨before, depth, place, scan⟩ := state
  cases scan with
  | between | comment | word | digits | fraction | relation =>
      cases ended
      rw [List.reverse_reverse]
      exact started _
  | _ => cases ended

/-- The tokens of a text that stands inside of `depth` brackets. -/
def tokensWithin (depth : Nat) (text : List Char) : Except SyntaxError (List Located) :=
  (LexState.run 0 ⟨[], depth, 0, .between⟩ text).bind LexState.finish

theorem ofTokens_eq_ok_iff {stop : Nat} {tokens : List Located} {program : Program} :
    Program.ofTokens stop tokens = .ok program ↔
      ParseState.initial.complete? tokens = some program := by
  unfold Program.ofTokens ParseState.complete?
  cases tokens.foldlM ParseState.step .initial with
  | error error => simp [Except.toOption]
  | ok state =>
      cases ended : state.finish with
      | error cause => simp [Except.toOption, ended]
      | ok complete => simp [Except.toOption, ended]

theorem tokenize_eq_ok_iff {base : Nat} {text : List Char} {tokens : List Located} :
    tokenize base text = .ok tokens ↔
      ∃ state, LexState.run base (.initial base) text = .ok state ∧ state.finish = .ok tokens :=
  bind_eq_ok

theorem ofChars_eq_ok_iff {text : List Char} {program : Program} :
    Program.ofChars text = .ok program ↔
      ∃ tokens, tokenize 0 text = .ok tokens ∧
        ParseState.initial.complete? tokens = some program := by
  unfold Program.ofChars
  cases tokenize 0 text with
  | error error => simp
  | ok tokens => simp [ofTokens_eq_ok_iff]

/-- The tokens of a text, of a line feed, and of another text are those of all three together. -/
theorem tokensWithin_append_newline {depth : Nat} {first second : List Char}
    {tokens others : List Located} {state : LexState}
    (ran : LexState.run 0 ⟨[], depth, 0, .between⟩ first = .ok state)
    (ended : state.finish = .ok tokens) (lexed : tokensWithin state.depth second = .ok others) :
    tokensWithin depth (first ++ '\n' :: second) =
      .ok (tokens ++ lineBreak state.depth (Text.byteLength first) ++
        others.map (Located.relocate (· + (Text.byteLength first + 1)))) := by
  let bytes := Text.byteLength first + 1
  let before : List Located := lineBreak state.depth (Text.byteLength first) ++ tokens.reverse
  obtain ⟨after, ranOther, endedOther⟩ := bind_eq_ok.mp lexed
  have stepped : state.step 0 '\n' =
      .ok (LexState.embed bytes before ⟨[], state.depth, 0, .between⟩) := by
    have there : state.place = Text.byteLength first := by
      rw [LexState.run_place ran]
      exact Nat.zero_add _
    rw [LexState.step_newline ended, there, LexState.embed, Nat.zero_add]
    rfl
  have embedded : LexState.run 0 (LexState.embed bytes before ⟨[], state.depth, 0, .between⟩)
      second = .ok (after.embed bytes before) :=
    ok_of_toOption (LexState.run_embed _ second) ranOther
  have whole := ok_of_toOption (LexState.finish_embed bytes before after) endedOther
  refine bind_eq_ok.mpr ⟨after.embed bytes before, ?_, ?_⟩
  · rw [LexState.run, List.foldlM_append]
    change (LexState.run 0 ⟨[], depth, 0, .between⟩ first).bind _ = _
    rw [ran]
    exact foldlM_cons_eq_ok.mpr ⟨_, stepped, embedded⟩
  · have reversed : (lineBreak state.depth (Text.byteLength first)).reverse =
        lineBreak state.depth (Text.byteLength first) := by
      unfold lineBreak
      split <;> rfl
    rw [whole, List.reverse_append, List.reverse_reverse, reversed]

theorem ofChars_append_newline {first second : List Char} {program other : Program}
    (left : Program.ofChars first = .ok program) (right : Program.ofChars second = .ok other) :
    Program.ofChars (first ++ '\n' :: second) =
      .ok (program ++ other.relocate (· + (Text.byteLength first + 1))) := by
  obtain ⟨tokens, lexed, completed⟩ := ofChars_eq_ok_iff.mp left
  obtain ⟨others, lexedOther, completedOther⟩ := ofChars_eq_ok_iff.mp right
  obtain ⟨state, ran, ended⟩ := tokenize_eq_ok_iff.mp lexed
  obtain ⟨reached, read, parsed⟩ := ParseState.complete?_eq_some.mp completed
  have outside := depth_eq_zero ran ended read parsed
  have lexedInside : tokensWithin state.depth second = .ok others := by
    rw [outside]
    exact lexedOther
  have lexedBoth : tokenize 0 (first ++ '\n' :: second) = _ :=
    tokensWithin_append_newline ran ended lexedInside
  rw [outside, List.append_assoc] at lexedBoth
  refine ofChars_eq_ok_iff.mpr ⟨_, lexedBoth, ?_⟩
  rw [ParseState.complete?_append read]
  apply ParseState.complete?_newline parsed
  have moved := ParseState.complete?_relocate (readFormat_shift (Text.byteLength first + 1))
    .initial others
  have joined := ParseState.complete?_following program
    (ParseState.initial.relocate (· + (Text.byteLength first + 1)))
    (others.map (Located.relocate (· + (Text.byteLength first + 1))))
  rw [moved, completedOther] at joined
  have start : (ParseState.initial.relocate (· + (Text.byteLength first + 1))).following program =
      ⟨.start, program, [], Text.byteLength first + 1⟩ := by
    simp [ParseState.initial, ParseState.relocate, ParseState.following, Phase.relocate]
  rw [start] at joined
  exact joined

end LiteratePages.Code
