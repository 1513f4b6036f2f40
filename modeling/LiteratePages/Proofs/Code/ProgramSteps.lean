import LiteratePages.Code.Program
import LiteratePages.Proofs.Code.Completion

namespace LiteratePages.Code

/-- The expression under way and what it is for. A name alone may still turn out to be a target. -/
def Phase.expression? : Phase → Option (Goal × ExprState)
  | .expr goal state => some (goal, state)
  | .name text span => some (.statement span.start, ⟨.after (.variable text span) span.start, []⟩)
  | _ => none

def Phase.awaitsElse : Phase → Bool
  | .branchEnd .. => true
  | _ => false

/-- A statement may start here. After the block of a condition it may do so on a later line only. -/
def Phase.fresh : Phase → Bool
  | .start | .branchEnd _ _ _ true => true
  | _ => false

/-- A token that only separates statements. -/
def Token.Separates (token : Token) (phase : Phase) : Prop :=
  token = .semicolon ∨ token = .newline ∧ phase.awaitsElse = false

namespace ParseState

/-- The statements of the innermost body. The one under way is complete and is the last of them. -/
inductive Body : ParseState → List Statement → Prop where
  | start (statements : List Statement) (outer : List Outer) (last : Nat) :
      Body ⟨.start, statements, outer, last⟩ statements
  | ended (statements : List Statement) (outer : List Outer) (last : Nat) :
      Body ⟨.ended, statements, outer, last⟩ statements
  | statement {state : ParseState} {start : Nat} {expr : ExprState} {e : Expr}
      (reading : state.phase.expression? = some (.statement start, expr))
      (complete : expr.Complete e) :
      Body state (state.statements ++ [.expr e ⟨start, state.last⟩])
  | assignment {state : ParseState} {start : Nat} {name : String} {expr : ExprState} {e : Expr}
      (reading : state.phase.expression? = some (.assignment start name, expr))
      (complete : expr.Complete e) :
      Body state (state.statements ++ [.assign name e ⟨start, state.last⟩])
  | branch (start stop : Nat) (branches : List (Expr × List Statement)) (laterLine : Bool)
      (statements : List Statement) (outer : List Outer) (last : Nat) :
      Body ⟨.branchEnd start stop branches laterLine, statements, outer, last⟩
        (statements ++ [.cond branches none ⟨start, stop⟩])

inductive Step (state : ParseState) : Located → ParseState → Prop where
  | separator {token : Token} {body : List Statement} (span : Span)
      (separates : token.Separates state.phase) (complete : state.Body body) :
      Step state ⟨token, span⟩ ⟨.start, body, state.outer, state.last⟩
  | closeBlock {body : List Statement} {block : Outer} {rest : List Outer} (span : Span)
      (complete : state.Body body) (within : state.outer = block :: rest) :
      Step state ⟨.closeBrace, span⟩
        (closeBlock ⟨.ended, body, state.outer, state.last⟩ block rest span.stop)
  | ifWord {body : List Statement} (span : Span) (fresh : state.phase.fresh = true)
      (complete : state.Body body) :
      Step state ⟨.ifWord, span⟩
        ⟨.expr (.condition span.start []) .initial, body, state.outer, state.last⟩
  | forWord {body : List Statement} (span : Span) (fresh : state.phase.fresh = true)
      (complete : state.Body body) :
      Step state ⟨.forWord, span⟩ ⟨.loopName span.start, body, state.outer, state.last⟩
  | name {body : List Statement} (text : String) (span : Span) (fresh : state.phase.fresh = true)
      (complete : state.Body body) :
      Step state ⟨.name text, span⟩ ⟨.name text span, body, state.outer, state.last⟩
  | operand {body : List Statement} {expr : ExprState} {next : Located}
      (fresh : state.phase.fresh = true) (complete : state.Body body)
      (other : ∀ text, next.token ≠ .name text)
      (started : ExprState.startOperand readFormat [] next = .ok expr) :
      Step state next
        ⟨.expr (.statement next.span.start) expr, body, state.outer, state.last⟩
  | assign {text : String} {place : Span} (span : Span)
      (named : state.phase = .name text place) :
      Step state ⟨.assign, span⟩ (state.goto (.expr (.assignment place.start text) .initial))
  | more {goal : Goal} {expr after : ExprState} {next : Located}
      (reading : state.phase.expression? = some (goal, expr))
      (fed : expr.feed readFormat next = .ok (.more after)) :
      Step state next (state.goto (.expr goal after))
  | branchBlock {start : Nat} {branches : List (Expr × List Statement)} {expr : ExprState}
      {e : Expr} (span : Span)
      (reading : state.phase.expression? = some (.condition start branches, expr))
      (complete : expr.Complete e) :
      Step state ⟨.openBrace, span⟩ (state.openBlock (.branch start branches e))
  | loopBlock {start : Nat} {name : String} {expr : ExprState} {e : Expr} (span : Span)
      (reading : state.phase.expression? = some (.source start name, expr))
      (complete : expr.Complete e) :
      Step state ⟨.openBrace, span⟩ (state.openBlock (.loop start name e))
  | elseBlock {start : Nat} {branches : List (Expr × List Statement)} (span : Span)
      (waiting : state.phase = .afterElse start branches) :
      Step state ⟨.openBrace, span⟩ (state.openBlock (.otherwise start branches))
  | elseIf {start : Nat} {branches : List (Expr × List Statement)} (span : Span)
      (waiting : state.phase = .afterElse start branches) :
      Step state ⟨.ifWord, span⟩ (state.goto (.expr (.condition start branches) .initial))
  | loopName {start : Nat} (text : String) (span : Span)
      (waiting : state.phase = .loopName start) :
      Step state ⟨.name text, span⟩ (state.goto (.loopIn start text))
  | loopIn {start : Nat} {name : String} (span : Span)
      (waiting : state.phase = .loopIn start name) :
      Step state ⟨.inWord, span⟩ (state.goto (.expr (.source start name) .initial))
  | laterLine {start stop : Nat} {branches : List (Expr × List Statement)} {laterLine : Bool}
      (span : Span) (waiting : state.phase = .branchEnd start stop branches laterLine) :
      Step state ⟨.newline, span⟩ (state.goto (.branchEnd start stop branches true))
  | elseWord {start stop : Nat} {branches : List (Expr × List Statement)} {laterLine : Bool}
      (span : Span) (waiting : state.phase = .branchEnd start stop branches laterLine) :
      Step state ⟨.elseWord, span⟩ (state.goto (.afterElse start branches))

variable {state after : ParseState} {body : List Statement} {goal : Goal} {expr : ExprState}
  {e : Expr} {next : Located}

theorem awaitsElse_of_expression? (reading : state.phase.expression? = some (goal, expr)) :
    state.phase.awaitsElse = false := by
  obtain ⟨phase, statements, outer, last⟩ := state
  cases phase <;> first | rfl | cases reading

theorem closeBlock_eq (phase other : Phase) (body : List Statement) (outer others : List Outer)
    (last : Nat) (block : Outer) (rest : List Outer) (stop : Nat) :
    closeBlock ⟨phase, body, outer, last⟩ block rest stop =
      closeBlock ⟨other, body, others, last⟩ block rest stop := by
  obtain ⟨opener, statements⟩ := block
  cases opener <;> rfl

theorem step_of_atEnd {phase : Phase} (complete : state.Body body)
    (settled : next.token = .newline → state.phase.awaitsElse = false)
    (read : atEnd ⟨phase, body, state.outer, state.last⟩ next = .ok after) :
    Step state next after := by
  obtain ⟨token, span⟩ := next
  cases token with
  | newline =>
      cases read
      exact .separator span (.inr ⟨rfl, settled rfl⟩) complete
  | semicolon =>
      cases read
      exact .separator span (.inl rfl) complete
  | closeBrace =>
      cases within : state.outer with
      | nil =>
          rw [within] at read
          cases read
      | cons block rest =>
          rw [within] at read
          cases read
          have step := Step.closeBlock span complete within
          rwa [closeBlock_eq .ended phase body state.outer (block :: rest)] at step
  | _ => cases read

/-- Reads a token that starts an expression as a statement. -/
def startExpr (state : ParseState) (next : Located) : Except SyntaxError ParseState :=
  match ExprState.startOperand readFormat [] next with
  | .ok expr => .ok (state.goto (.expr (.statement next.span.start) expr))
  | .error error => .error error

theorem step_of_atStart {phase : Phase} (fresh : state.phase.fresh = true)
    (complete : state.Body body)
    (settled : next.token = .newline → state.phase.awaitsElse = false)
    (read : atStart ⟨phase, body, state.outer, state.last⟩ next = .ok after) :
    Step state next after := by
  have operand : (∀ text, next.token ≠ .name text) →
      startExpr ⟨phase, body, state.outer, state.last⟩ next = .ok after →
        Step state next after := by
    intro other begun
    unfold startExpr at begun
    split at begun
    · rename_i expr started
      cases begun
      exact .operand fresh complete other started
    · cases begun
  have ended : atEnd ⟨phase, body, state.outer, state.last⟩ next = .ok after → _ :=
    step_of_atEnd complete settled
  obtain ⟨token, span⟩ := next
  cases token with
  | newline | semicolon => exact ended read
  | closeBrace =>
      -- Where no block is open, the brace would have to start an expression.
      cases within : state.outer with
      | nil =>
          rw [within] at read
          cases read
      | cons block rest =>
          rw [within] at read ended
          exact ended read
  | ifWord =>
      cases read
      exact .ifWord span fresh complete
  | forWord =>
      cases read
      exact .forWord span fresh complete
  | name text =>
      cases read
      exact .name text span fresh complete
  | elseWord => cases read
  | _ => exact operand nofun read

theorem step_of_conclude (reading : state.phase.expression? = some (goal, expr))
    (complete : expr.Complete e) (read : state.conclude goal e next = .ok after) :
    Step state next after := by
  have settled : next.token = .newline → state.phase.awaitsElse = false :=
    fun _ => awaitsElse_of_expression? reading
  cases goal with
  | statement start =>
      have ended : (state.add (.expr e ⟨start, state.last⟩)).atEnd next = .ok after → _ :=
        step_of_atEnd (.statement reading complete) settled
      obtain ⟨token, span⟩ := next
      cases token with
      | assign => cases read
      | _ => exact ended read
  | assignment start name => exact step_of_atEnd (.assignment reading complete) settled read
  | condition start branches =>
      obtain ⟨token, span⟩ := next
      cases token with
      | openBrace =>
          cases read
          exact .branchBlock span reading complete
      | _ => cases read
  | source start name =>
      obtain ⟨token, span⟩ := next
      cases token with
      | openBrace =>
          cases read
          exact .loopBlock span reading complete
      | _ => cases read

theorem step_of_feedExpr (reading : state.phase.expression? = some (goal, expr))
    (read : state.feedExpr goal expr next = .ok after) : Step state next after := by
  unfold feedExpr at read
  split at read
  · rename_i stepped fed
    cases read
    exact .more reading fed
  · rename_i e fed
    exact step_of_conclude reading (ExprState.complete_of_feed_done fed) read
  · cases read

theorem step_of_read (read : state.read next = .ok after) : Step state next after := by
  obtain ⟨phase, statements, outer, last⟩ := state
  cases phase with
  | start => exact step_of_atStart rfl (.start ..) (fun _ => rfl) read
  | ended => exact step_of_atEnd (.ended ..) (fun _ => rfl) read
  | name text place =>
      have fed : feedExpr ⟨.name text place, statements, outer, last⟩ (.statement place.start)
          ⟨.after (.variable text place) place.start, []⟩ next = .ok after → _ :=
        step_of_feedExpr rfl
      obtain ⟨token, span⟩ := next
      cases token with
      | assign =>
          cases read
          exact .assign span rfl
      | _ => exact fed read
  | expr goal expr => exact step_of_feedExpr rfl read
  | loopName start =>
      obtain ⟨token, span⟩ := next
      cases token with
      | name text =>
          cases read
          exact .loopName text span rfl
      | _ => cases read
  | loopIn start name =>
      obtain ⟨token, span⟩ := next
      cases token with
      | inWord =>
          cases read
          exact .loopIn span rfl
      | _ => cases read
  | afterElse start branches =>
      obtain ⟨token, span⟩ := next
      cases token with
      | ifWord =>
          cases read
          exact .elseIf span rfl
      | openBrace =>
          cases read
          exact .elseBlock span rfl
      | _ => cases read
  | branchEnd start stop branches laterLine =>
      let state : ParseState := ⟨.branchEnd start stop branches laterLine, statements, outer, last⟩
      let ended := state.add (.cond branches none ⟨start, stop⟩)
      have complete : state.Body ended.statements := .branch ..
      have later : next.token ≠ .newline → laterLine = true → ended.atStart next = .ok after →
          state.Step next after := by
        rintro other rfl
        exact step_of_atStart rfl complete (absurd · other)
      have sameLine : next.token ≠ .newline → ended.atEnd next = .ok after →
          state.Step next after := fun other => step_of_atEnd complete (absurd · other)
      obtain ⟨token, span⟩ := next
      cases token with
      | newline =>
          cases read
          exact .laterLine span rfl
      | elseWord =>
          cases read
          exact .elseWord span rfl
      | _ =>
          -- No `else` has come, so that the condition is complete and the token is another's.
          cases laterLine with
          | false => exact sameLine nofun read
          | true => exact later nofun rfl read

theorem atEnd_eq_error {error : SyntaxError} (failed : state.atEnd next = .error error) :
    error.span = next.span := by
  obtain ⟨phase, statements, outer, last⟩ := state
  obtain ⟨token, span⟩ := next
  cases token with
  | newline | semicolon => cases failed
  | closeBrace =>
      cases outer with
      | nil =>
          cases failed
          rfl
      | cons => cases failed
  | _ =>
      cases failed
      rfl

theorem atStart_eq_error {error : SyntaxError} (failed : state.atStart next = .error error) :
    error.RaisedAt readFormat next := by
  have operand : startExpr state next = .error error → error.RaisedAt readFormat next := by
    intro begun
    unfold startExpr at begun
    split at begun
    · cases begun
    · rename_i refused
      cases begun
      exact ExprState.startOperand_eq_error refused
  obtain ⟨phase, statements, outer, last⟩ := state
  obtain ⟨token, span⟩ := next
  cases token with
  | newline | semicolon | ifWord | forWord | name => cases failed
  | closeBrace =>
      cases outer with
      | nil => exact operand failed
      | cons => cases failed
  | elseWord =>
      cases failed
      exact .inl rfl
  | _ => exact operand failed

theorem conclude_eq_error {error : SyntaxError}
    (failed : state.conclude goal e next = .error error) :
    error.span = next.span := by
  obtain ⟨token, span⟩ := next
  cases goal with
  | statement start =>
      have ended : (state.add (.expr e ⟨start, state.last⟩)).atEnd ⟨token, span⟩ =
          .error error → _ := atEnd_eq_error
      cases token with
      | assign =>
          cases failed
          rfl
      | _ => exact ended failed
  | assignment start name => exact atEnd_eq_error failed
  | condition | source =>
      cases token with
      | openBrace => cases failed
      | _ =>
          cases failed
          rfl

theorem feedExpr_eq_error {error : SyntaxError}
    (failed : state.feedExpr goal expr next = .error error) : error.RaisedAt readFormat next := by
  unfold feedExpr at failed
  split at failed
  · cases failed
  · exact .inl (conclude_eq_error failed)
  · rename_i refused
    cases failed
    exact ExprState.feed_eq_error refused

theorem read_eq_error {error : SyntaxError} (failed : state.read next = .error error) :
    error.RaisedAt readFormat next := by
  obtain ⟨phase, statements, outer, last⟩ := state
  obtain ⟨token, span⟩ := next
  cases phase with
  | start => exact atStart_eq_error failed
  | ended => exact .inl (atEnd_eq_error failed)
  | name text place =>
      have fed : feedExpr ⟨.name text place, statements, outer, last⟩ (.statement place.start)
          ⟨.after (.variable text place) place.start, []⟩ ⟨token, span⟩ = .error error → _ :=
        feedExpr_eq_error
      cases token with
      | assign => cases failed
      | _ => exact fed failed
  | expr goal expr => exact feedExpr_eq_error failed
  | loopName =>
      cases token with
      | name => cases failed
      | _ =>
          cases failed
          exact .inl rfl
  | loopIn =>
      cases token with
      | inWord => cases failed
      | _ =>
          cases failed
          exact .inl rfl
  | afterElse =>
      cases token with
      | ifWord | openBrace => cases failed
      | _ =>
          cases failed
          exact .inl rfl
  | branchEnd start stop branches laterLine =>
      let state : ParseState := ⟨.branchEnd start stop branches laterLine, statements, outer, last⟩
      let ended := state.add (.cond branches none ⟨start, stop⟩)
      have sameLine : ended.atEnd ⟨token, span⟩ = .error error → _ := atEnd_eq_error
      have later : ended.atStart ⟨token, span⟩ = .error error → _ := atStart_eq_error
      cases token with
      | newline | elseWord => cases failed
      | _ =>
          cases laterLine with
          | false => exact .inl (sameLine failed)
          | true => exact later failed

theorem read_more {moved : ExprState} (reading : state.phase.expression? = some (goal, expr))
    (fed : expr.feed readFormat next = .ok (.more moved)) :
    state.read next = .ok (state.goto (.expr goal moved)) := by
  obtain ⟨phase, statements, outer, last⟩ := state
  obtain ⟨token, span⟩ := next
  cases phase with
  | expr =>
      cases reading
      simp only [read, feedExpr, fed]
  | name =>
      cases reading
      cases token with
      | assign => cases fed
      | _ => simp only [read, feedExpr, fed]
  | _ => cases reading

/-- A complete expression is concluded by any token that ends it. -/
theorem read_complete (reading : state.phase.expression? = some (goal, expr))
    (complete : expr.Complete e) (ends : next.token.ends = true) (other : next.token ≠ .assign) :
    state.read next = state.conclude goal e next := by
  have fed : expr.feed readFormat next = .ok (.done e) := complete.feed ends
  obtain ⟨phase, statements, outer, last⟩ := state
  obtain ⟨token, span⟩ := next
  cases phase with
  | expr =>
      cases reading
      simp only [read, feedExpr, fed]
  | name =>
      cases reading
      cases token with
      | assign => exact absurd rfl other
      | _ => simp only [read, feedExpr, fed]
  | _ => cases reading

theorem Body.read_separator {token : Token} (complete : state.Body body)
    (separates : token.Separates state.phase) (span : Span) :
    state.read ⟨token, span⟩ = .ok ⟨.start, body, state.outer, state.last⟩ := by
  have concluded : ∀ {goal expr e}, state.phase.expression? = some (goal, expr) →
      expr.Complete e → state.read ⟨token, span⟩ = state.conclude goal e ⟨token, span⟩ := by
    intro goal expr e reading whole
    rcases separates with rfl | ⟨rfl, _⟩ <;> exact read_complete reading whole rfl nofun
  cases complete with
  | start | ended => rcases separates with rfl | ⟨rfl, _⟩ <;> rfl
  | statement reading whole =>
      rw [concluded reading whole]
      rcases separates with rfl | ⟨rfl, _⟩ <;> rfl
  | assignment reading whole =>
      rw [concluded reading whole]
      rcases separates with rfl | ⟨rfl, _⟩ <;> rfl
  | branch start stop branches laterLine =>
      rcases separates with rfl | ⟨_, settled⟩
      · cases laterLine <;> rfl
      · cases settled

theorem Body.read_closeBrace {block : Outer} {rest : List Outer} (complete : state.Body body)
    (within : state.outer = block :: rest) (span : Span) :
    state.read ⟨.closeBrace, span⟩ =
      .ok (closeBlock ⟨.ended, body, state.outer, state.last⟩ block rest span.stop) := by
  obtain ⟨phase, statements, outer, last⟩ := state
  cases within
  cases complete with
  | start => exact congrArg Except.ok (closeBlock_eq ..)
  | ended => rfl
  | statement reading whole => exact read_complete reading whole rfl nofun
  | assignment reading whole => exact read_complete reading whole rfl nofun
  | branch start stop branches laterLine => cases laterLine <;> rfl

theorem finish_eq_ok_iff : state.finish = .ok body ↔ state.outer = [] ∧ state.Body body := by
  have programEnd : ∀ {other : ParseState}, other.programEnd = .ok body ↔
      other.outer = [] ∧ other.statements = body := by
    intro other
    unfold ParseState.programEnd
    split <;> simp [*]
  constructor
  · intro ended
    obtain ⟨phase, statements, outer, last⟩ := state
    cases phase with
    | start =>
        obtain ⟨outermost, rfl⟩ := programEnd.mp ended
        exact ⟨outermost, .start ..⟩
    | ended =>
        obtain ⟨outermost, rfl⟩ := programEnd.mp ended
        exact ⟨outermost, .ended ..⟩
    | name text span =>
        obtain ⟨outermost, rfl⟩ := programEnd.mp ended
        have complete : ExprState.Complete ⟨.after (.variable text span) span.start, []⟩
            (.variable text span) := ⟨_, _, rfl, rfl⟩
        exact ⟨outermost, .statement rfl complete⟩
    | expr goal expr =>
        unfold finish at ended
        dsimp only at ended
        split at ended
        · cases ended
        · rename_i e finished
          have complete := ExprState.finish_eq_ok_iff.mp finished
          cases goal with
          | statement start =>
              obtain ⟨outermost, rfl⟩ := programEnd.mp ended
              exact ⟨outermost, .statement rfl complete⟩
          | assignment start name =>
              obtain ⟨outermost, rfl⟩ := programEnd.mp ended
              exact ⟨outermost, .assignment rfl complete⟩
          | condition | source => cases ended
    | branchEnd start stop branches laterLine =>
        obtain ⟨outermost, rfl⟩ := programEnd.mp ended
        exact ⟨outermost, .branch ..⟩
    | _ => cases ended
  · rintro ⟨outermost, complete⟩
    cases complete with
    | start | ended | branch => exact programEnd.mpr ⟨outermost, rfl⟩
    | statement reading whole =>
        obtain ⟨phase, statements, outer, last⟩ := state
        cases phase with
        | expr =>
            cases reading
            simp only [finish, ExprState.finish_eq_ok_iff.mpr whole]
            exact programEnd.mpr ⟨outermost, rfl⟩
        | name =>
            cases reading
            obtain ⟨_, _, same, closed⟩ := whole
            cases same
            cases closed
            exact programEnd.mpr ⟨outermost, rfl⟩
        | _ => cases reading
    | assignment reading whole =>
        obtain ⟨phase, statements, outer, last⟩ := state
        cases phase with
        | expr =>
            cases reading
            simp only [finish, ExprState.finish_eq_ok_iff.mpr whole]
            exact programEnd.mpr ⟨outermost, rfl⟩
        | _ => cases reading

end ParseState
end LiteratePages.Code
