import LiteratePages.Proofs.Code.Juxtaposition
import LiteratePages.Proofs.Code.Lexemes

/-!
A text that is one expression. Without line feeds and semicolons nothing ends the statement that it
is, so that the same tokens are read to the end where an expression alone is wanted.
-/
namespace LiteratePages.Code

/-- A token that may stand in an expression on one line. -/
def Token.inExpression : Token → Bool
  | .newline | .semicolon | .ifWord | .elseWord | .forWord | .inWord | .assign => false
  | _ => true

/-- A token that does not separate statements. -/
def Token.Inline (token : Token) : Prop := token ≠ .newline ∧ token ≠ .semicolon

theorem inline_wordToken (text : String) : (wordToken text).Inline := by
  unfold wordToken
  split <;> exact ⟨nofun, nofun⟩

theorem inline_relationToken (first : Char) (withEqual : Bool) :
    (relationToken first withEqual).Inline := by
  unfold relationToken
  repeat' split
  all_goals exact ⟨nofun, nofun⟩

theorem inline_quotedToken (format : Bool) (opened : Nat) (body : List Char) :
    (LexState.quotedToken format opened body).Inline := by
  cases format <;> exact ⟨nofun, nofun⟩

theorem inline_charToken? {c : Char} {token : Token} (found : charToken? c = some token)
    (other : c ≠ ';') : token.Inline := by
  unfold charToken? at found
  split at found <;> cases found <;> first | exact absurd rfl other | exact ⟨nofun, nofun⟩

theorem inline_numberToken (whole decimals : List Char) :
    (LexState.numberToken whole decimals).Inline := ⟨nofun, nofun⟩

namespace LexState

variable {state after : LexState} {base : Nat} {c : Char}

/-- No token so far separates statements. -/
def Inline (state : LexState) : Prop := ∀ next ∈ state.tokens, next.token.Inline

theorem Inline.push (inline : state.Inline) {token : Token} (own : token.Inline) (start : Nat) :
    (state.push token start).Inline := by
  intro next member
  rcases List.mem_cons.mp member with rfl | member
  · exact own
  · exact inline next member

theorem Inline.start (inline : state.Inline) (bare : c ≠ '\n') (other : c ≠ ';')
    (read : state.start c = .ok after) : after.Inline := by
  cases begins_of_start read with
  | blank | newline | comment | token => exact inline
  | @whole token known =>
      have found := known.resolve_left fun newline => bare newline.1
      have advanced : (state.advance c .between).Inline := inline
      have pushed : (state.close c token state.place).Inline :=
        advanced.push (inline_charToken? found other) state.place
      exact pushed

theorem Inline.step (inline : state.Inline) (bare : c ≠ '\n') (other : c ≠ ';')
    (read : state.step base c = .ok after) : after.Inline := by
  have advanced : ∀ scan, (state.advance c scan).Inline := fun _ => inline
  have closed : ∀ token start, token.Inline → (state.close c token start).Inline :=
    fun token start own => (advanced .between).push own start
  have behind : ∀ token start, token.Inline → (state.push token start).start c = .ok after →
      after.Inline := fun token start own => (inline.push own start).start bare other
  obtain ⟨tokens, depth, place, scan⟩ := state
  unfold LexState.step at read
  cases scan with
  | between => exact inline.start bare other read
  | comment =>
      rw [if_neg bare] at read
      cases read
      exact inline
  | word start chars =>
      dsimp only at read
      repeat' split at read
      · cases read
        exact inline
      · cases read
        exact inline
      · exact behind _ _ (inline_wordToken _) read
  | digits start whole =>
      dsimp only at read
      repeat' split at read
      · cases read
        exact inline
      · cases read
        exact inline
      · exact behind _ _ (inline_numberToken ..) read
  | point start whole =>
      dsimp only at read
      split at read <;> cases read
      exact inline
  | fraction start whole decimals =>
      dsimp only at read
      split at read
      · cases read
        exact inline
      · exact behind _ _ (inline_numberToken ..) read
  | relation start first =>
      dsimp only at read
      split at read
      · cases read
        exact closed _ _ (inline_relationToken first true)
      · exact behind _ _ (inline_relationToken first false) read
  | pair start first =>
      dsimp only at read
      split at read <;> cases read
      exact closed _ _ ⟨nofun, nofun⟩
  | quoted format start quote opened escaped body =>
      dsimp only at read
      repeat' split at read
      · cases read
        exact inline
      · cases read
        exact closed _ _ (inline_quotedToken format opened body)
      · cases read
        exact inline

theorem Inline.run (inline : state.Inline) {text : List Char} (bare : '\n' ∉ text)
    (other : ';' ∉ text) (read : LexState.run base state text = .ok after) : after.Inline := by
  induction text generalizing state with
  | nil =>
      cases read
      exact inline
  | cons c rest ih =>
      obtain ⟨next, stepped, later⟩ := foldlM_cons_eq_ok.mp read
      exact ih (inline.step (List.ne_of_not_mem_cons bare).symm
        (List.ne_of_not_mem_cons other).symm stepped) (List.not_mem_of_not_mem_cons bare)
        (List.not_mem_of_not_mem_cons other) later

theorem Inline.finish (inline : state.Inline) {tokens : List Located}
    (read : state.finish = .ok tokens) : ∀ next ∈ tokens, next.token.Inline := by
  have reversed : ∀ {other : LexState}, other.Inline → other.tokens.reverse = tokens →
      ∀ next ∈ tokens, next.token.Inline := by
    rintro other inline rfl next member
    exact inline next (List.mem_reverse.mp member)
  obtain ⟨before, depth, place, scan⟩ := state
  cases scan with
  | between | comment => exact reversed inline (Except.ok.inj read)
  | word => exact reversed (inline.push (inline_wordToken _) _) (Except.ok.inj read)
  | digits | fraction =>
      exact reversed (inline.push (inline_numberToken ..) _) (Except.ok.inj read)
  | relation => exact reversed (inline.push (inline_relationToken ..) _) (Except.ok.inj read)
  | point | pair | quoted => cases read

end LexState

theorem inline_of_tokenize {base : Nat} {text : List Char} {tokens : List Located}
    (bare : '\n' ∉ text) (other : ';' ∉ text) (lexed : tokenize base text = .ok tokens) :
    ∀ next ∈ tokens, next.token.Inline := by
  obtain ⟨state, ran, ended⟩ := tokenize_eq_ok_iff.mp lexed
  have initial : (LexState.initial base).Inline := nofun
  exact (initial.run bare other ran).finish ended

/-- A lexeme that only statements have. -/
def Lexeme.ofStatement : Lexeme → Bool
  | .ifWord | .elseWord | .forWord | .inWord | .assign => true
  | _ => false

mutual

theorem Expr.lexemes_ofStatement : (e : Expr) → ∀ lexeme ∈ e.lexemes, lexeme.ofStatement = false
  | .string _ | .number _ | .boolean _ | .none | .format _ | .variable .. => by
      simp [Expr.lexemes, Lexeme.ofStatement]
  | .list items => by
      have inside := lexemesOfAll_ofStatement items
      simpa [Expr.lexemes, Lexeme.ofStatement, or_imp, forall_and] using inside
  | .map entries => by
      have inside := lexemesOfEntries_ofStatement entries
      simpa [Expr.lexemes, Lexeme.ofStatement, or_imp, forall_and] using inside
  | .call callee arguments _ => by
      have first := callee.lexemes_ofStatement
      have inside := lexemesOfAll_ofStatement arguments
      simpa [Expr.lexemes, or_imp, forall_and] using ⟨first, inside⟩
  | .index target position _ => by
      have first := target.lexemes_ofStatement
      have inside := position.lexemes_ofStatement
      simpa [Expr.lexemes, Lexeme.ofStatement, or_imp, forall_and] using ⟨first, inside⟩
  | .unary op operand => by
      have inside := operand.lexemes_ofStatement
      cases op <;> simpa [Expr.lexemes, Unary.lexeme, Lexeme.ofStatement] using inside
  | .binary _ left right => by
      have first := left.lexemes_ofStatement
      have second := right.lexemes_ofStatement
      simpa [Expr.lexemes, Lexeme.ofStatement, or_imp, forall_and] using ⟨first, second⟩
termination_by structural e => e

theorem lexemesOfAll_ofStatement :
    (es : List Expr) → ∀ lexeme ∈ lexemesOfAll es, lexeme.ofStatement = false
  | [] => nofun
  | e :: rest => by
      have first := e.lexemes_ofStatement
      have later := lexemesOfAll_ofStatement rest
      simpa [lexemesOfAll, or_imp, forall_and] using ⟨first, later⟩
termination_by structural es => es

theorem lexemesOfEntries_ofStatement : (entries : List (Expr × Expr)) →
    ∀ lexeme ∈ lexemesOfEntries entries, lexeme.ofStatement = false
  | [] => nofun
  | (label, value) :: rest => by
      have first := label.lexemes_ofStatement
      have second := value.lexemes_ofStatement
      have later := lexemesOfEntries_ofStatement rest
      simpa [lexemesOfEntries, Lexeme.ofStatement, or_imp, forall_and] using
        ⟨first, second, later⟩
termination_by structural entries => entries

end

/-- The tokens of a text without separators that is one expression all stand in expressions. -/
theorem inExpression_of_complete? {tokens : List Located} {e : Expr} {span : Span}
    (inline : ∀ next ∈ tokens, next.token.Inline)
    (complete : ParseState.initial.complete? tokens = some [.expr e span]) :
    ∀ next ∈ tokens, next.token.inExpression = true := by
  obtain ⟨final, ran, ended⟩ := ParseState.complete?_eq_some.mp complete
  have branched : ParseState.initial.Branched := trivial
  have lexemes : e.lexemes = tokens.filterMap (·.token.lexeme?) := by
    have kept := ParseState.finish_lexemes ended
    rw [ParseState.run_lexemes branched ran] at kept
    simpa [Program.lexemes, lexemesOfBody, Statement.lexemes, ParseState.lexemes,
      ParseState.initial, lexemesOfOuter, Phase.lexemes] using kept
  intro next member
  have apart : ∀ lexeme, next.token.lexeme? = some lexeme → lexeme.ofStatement = false := by
    intro lexeme found
    refine e.lexemes_ofStatement lexeme ?_
    rw [lexemes]
    exact List.mem_filterMap.mpr ⟨next, member, found⟩
  obtain ⟨bare, other⟩ := inline next member
  cases token : next.token with
  | newline => exact absurd token bare
  | semicolon => exact absurd token other
  | ifWord | elseWord | forWord | inWord | assign =>
      rw [token] at apart
      cases apart _ rfl
  | _ => rfl

namespace ParseState

variable {state after : ParseState} {expr : ExprState} {next : Located} {tokens : List Located}
  {e : Expr} {span : Span} {start : Nat}

theorem fresh_of_expression? {goal : Goal} (reading : state.phase.expression? = some (goal, expr)) :
    state.phase.fresh = false := by
  cases phase : state.phase with
  | name | expr => rfl
  | _ =>
      rw [phase] at reading
      cases reading

/-- The first token of an expression starts it, as a name or as another operand. -/
theorem read_first (own : next.token.inExpression = true)
    (read : initial.read next = .ok after) :
    ∃ expr, ExprState.startOperand readFormat [] next = .ok expr ∧
      after.phase.expression? = some (.statement next.span.start, expr) ∧ after.outer = [] ∧
      after.statements = [] := by
  cases step_of_read read with
  | name text span fresh empty =>
      cases empty with
      | start => exact ⟨_, rfl, rfl, rfl, rfl⟩
      | statement reading | assignment reading => cases reading
  | operand fresh empty other started =>
      cases empty with
      | start => exact ⟨_, started, rfl, rfl, rfl⟩
      | statement reading | assignment reading => cases reading
  | separator span separates => rcases separates with rfl | ⟨rfl, _⟩ <;> cases own
  | ifWord | forWord | assign | elseIf | loopIn | laterLine | elseWord => cases own
  | closeBlock span complete within => cases within
  | more other | branchBlock span other | loopBlock span other => cases other
  | elseBlock span waiting | loopName text span waiting => cases waiting

/-- Outside of all blocks each further token is read as a part of the expression. -/
theorem read_further (own : next.token.inExpression = true) (outermost : state.outer = [])
    (reading : state.phase.expression? = some (.statement start, expr))
    (read : state.read next = .ok after) :
    ∃ moved, expr.feed readFormat next = .ok (.more moved) ∧
      after = state.goto (.expr (.statement start) moved) := by
  have fresh := fresh_of_expression? reading
  cases step_of_read read with
  | more same fed =>
      rw [reading] at same
      cases same
      exact ⟨_, fed, rfl⟩
  | separator span separates => rcases separates with rfl | ⟨rfl, _⟩ <;> cases own
  | closeBlock span complete within =>
      rw [outermost] at within
      cases within
  | name text span starts | operand starts =>
      rw [fresh] at starts
      cases starts
  | ifWord | forWord | assign | elseIf | loopIn | laterLine | elseWord => cases own
  | branchBlock span other | loopBlock span other =>
      rw [reading] at other
      cases other
  | elseBlock span waiting | loopName text span waiting =>
      rw [waiting] at reading
      cases reading

theorem complete_of_finish (first : state.statements = [])
    (reading : state.phase.expression? = some (.statement start, expr))
    (ended : state.finish = .ok [.expr e span]) : expr.Complete e := by
  obtain ⟨_, body⟩ := finish_eq_ok_iff.mp ended
  generalize same : [Statement.expr e span] = statements at body
  cases body with
  | start | ended | branch => cases reading
  | statement own whole =>
      rw [reading] at own
      cases own
      rw [first] at same
      cases same
      exact whole
  | assignment own =>
      rw [reading] at own
      cases own

/-- Where tokens finish the statement that an expression is, they finish the expression. -/
theorem readAll_of_complete? (inside : ∀ next ∈ tokens, next.token.inExpression = true)
    (complete : state.complete? tokens = some [.expr e span])
    (reading : state.phase.expression? = some (.statement start, expr))
    (outermost : state.outer = []) (first : state.statements = []) (stop : Nat) :
    expr.readAll readFormat stop tokens = .ok e := by
  induction tokens generalizing state expr with
  | nil =>
      obtain ⟨_, ran, ended⟩ := complete?_eq_some.mp complete
      cases ran
      have whole := complete_of_finish first reading ended
      simp only [ExprState.readAll, ExprState.finish_eq_ok_iff.mpr whole]
  | cons next rest ih =>
      obtain ⟨own, later⟩ := List.forall_mem_cons.mp inside
      obtain ⟨after, stepped, completed⟩ := complete?_cons_eq_some.mp complete
      obtain ⟨reached, read, rfl⟩ := map_eq_ok.mp stepped
      obtain ⟨moved, fed, rfl⟩ := read_further own outermost reading read
      simp only [ExprState.readAll, fed]
      exact ih later completed rfl outermost first

/-- Tokens that are one expression as a program are that expression. -/
theorem readAll_of_initial (inside : ∀ next ∈ tokens, next.token.inExpression = true)
    (complete : initial.complete? tokens = some [.expr e span]) (stop : Nat) :
    ExprState.initial.readAll readFormat stop tokens = .ok e := by
  cases tokens with
  | nil => cases complete
  | cons next rest =>
      obtain ⟨own, later⟩ := List.forall_mem_cons.mp inside
      obtain ⟨after, stepped, completed⟩ := complete?_cons_eq_some.mp complete
      obtain ⟨reached, read, rfl⟩ := map_eq_ok.mp stepped
      obtain ⟨expr, started, reading, outermost, first⟩ := read_first own read
      have ended := readAll_of_complete? later completed reading outermost first stop
      simp only [ExprState.readAll, ExprState.initial, ExprState.feed, started]
      exact ended

end ParseState

/-- A text that is one expression and has no separators is read to its end as that expression. -/
theorem readAll_of_ofChars {text : List Char} {e : Expr} {span : Span} (bare : '\n' ∉ text)
    (whole : ';' ∉ text) (alone : Program.ofChars text = .ok [.expr e span]) :
    ∃ tokens, tokenize 0 text = .ok tokens ∧
      ∀ stop, ExprState.initial.readAll readFormat stop tokens = .ok e := by
  obtain ⟨tokens, lexed, complete⟩ := ofChars_eq_ok_iff.mp alone
  have inside := inExpression_of_complete? (inline_of_tokenize bare whole lexed) complete
  exact ⟨tokens, lexed, ParseState.readAll_of_initial inside complete⟩

end LiteratePages.Code
