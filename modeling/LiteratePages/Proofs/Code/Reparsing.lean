import LiteratePages.Proofs.Code.Precedence
import LiteratePages.Proofs.Code.ProgramSteps

namespace LiteratePages.Code

def Statement.unplaced (statement : Statement) : Statement := statement.relocate fun _ => 0

def Program.unplaced (program : Program) : Program := program.relocate fun _ => 0

theorem Program.unplaced_eq_map (program : Program) :
    program.unplaced = program.map Statement.unplaced := by
  rw [unplaced, relocate, relocateBody_eq_map]
  rfl

def unplacedBranch (branch : Expr × List Statement) : Expr × List Statement :=
  (branch.1.unplaced, branch.2.map Statement.unplaced)

namespace Statement

theorem unplaced_cond (branches : List (Expr × List Statement)) (span : Span) :
    (cond branches none span).unplaced = .cond (branches.map unplacedBranch) none ⟨0, 0⟩ := by
  rw [unplaced, relocate, relocateBranches_eq_map]
  rfl

theorem unplaced_condElse (branches : List (Expr × List Statement)) (body : List Statement)
    (span : Span) :
    (cond branches (some body) span).unplaced =
      .cond (branches.map unplacedBranch) (some (body.map unplaced)) ⟨0, 0⟩ := by
  rw [unplaced, relocate, relocateBranches_eq_map, relocateBody_eq_map]
  rfl

theorem unplaced_loop (name : String) (source : Expr) (body : List Statement) (span : Span) :
    (loop name source body span).unplaced =
      .loop name source.unplaced (body.map unplaced) ⟨0, 0⟩ := by
  rw [unplaced, relocate, relocateBody_eq_map]
  rfl

end Statement

theorem ExprState.Holds.complete {state : ExprState} {level : Nat} {e : Expr}
    (held : state.Holds level [] e) : state.Complete e := by
  obtain ⟨last, start, reached, same⟩ := held
  exact ⟨last, start, reached, same 0 (Nat.zero_le _)⟩

namespace ParseState

variable {state : ParseState} {statements : List Statement} {outer : List Outer} {last : Nat}
  {tokens : List Token} {e : Expr} {goal : Goal} {expr : ExprState}

abbrev Reads (state : ParseState) (tokens : List Token) (reached : ParseState → Prop) : Prop :=
  Leads (fun state next after => state.step next = .ok after) state tokens reached

/-- The statements in blocks that are open around them are `body`, the last of which is complete. -/
def Finishes (body : List Statement) (outer : List Outer) (state : ParseState) : Prop :=
  state.outer = outer ∧ state.Body body

theorem Finishes.semicolon {body : List Statement} (finishes : Finishes body outer state)
    (span : Span) : state.step ⟨.semicolon, span⟩ = .ok ⟨.start, body, outer, span.stop⟩ := by
  obtain ⟨rfl, complete⟩ := finishes
  rw [step, complete.read_separator (.inl rfl) span]
  rfl

theorem Finishes.closeBrace {body : List Statement} {block : Outer}
    (finishes : Finishes body (block :: outer) state) (span : Span) :
    state.step ⟨.closeBrace, span⟩ =
      .ok (closeBlock ⟨.ended, body, block :: outer, span.stop⟩ block outer span.stop) := by
  obtain ⟨within, complete⟩ := finishes
  obtain ⟨opener, statements⟩ := block
  rw [step, complete.read_closeBrace within span]
  cases opener <;> rfl

/-- Where an expression is under way, its tokens are read as in the expression alone. -/
theorem reads_expr {reached : ExprState → Prop} (inside : expr.Reads tokens reached)
    (reading : state.phase.expression? = some (goal, expr)) :
    state.Reads tokens fun after => ∃ stopped, reached stopped ∧
      after.phase.expression? = some (goal, stopped) ∧ after.statements = state.statements ∧
        after.outer = state.outer := by
  induction tokens generalizing expr state with
  | nil => exact ⟨expr, inside, reading, rfl, rfl⟩
  | cons token rest ih =>
      intro span
      obtain ⟨moved, fed, later⟩ := inside span
      have stepped : state.step ⟨token, span⟩ =
          .ok { state.goto (.expr goal moved) with last := span.stop } := by
        rw [step, read_more reading fed]
        rfl
      exact ⟨_, stepped, ih later rfl⟩

theorem reads_goal (printed : e.Prints tokens)
    (reading : state.phase.expression? = some (goal, .initial)) :
    state.Reads tokens fun after => ∃ whole expr, whole.unplaced = e.unplaced ∧
      expr.Complete whole ∧ after.phase.expression? = some (goal, expr) ∧
        after.statements = state.statements ∧ after.outer = state.outer := by
  have inside : ExprState.initial.Reads tokens fun expr =>
      ∃ whole, whole.unplaced = e.unplaced ∧ expr.Holds 0 [] whole :=
    (ExprState.readAs_prints printed).inside trivial
  refine (reads_expr inside reading).mono ?_
  rintro after ⟨expr, ⟨whole, same, held⟩, kept⟩
  exact ⟨whole, expr, same, held.complete, kept⟩

theorem reads_expression (printed : e.Prints tokens) (statements : List Statement)
    (outer : List Outer) (last : Nat) :
    Reads ⟨.start, statements, outer, last⟩ tokens fun state =>
      ∃ whole span, whole.unplaced = e.unplaced ∧
        Finishes (statements ++ [.expr whole span]) outer state := by
  have inside : ExprState.initial.Reads tokens fun expr =>
      ∃ whole, whole.unplaced = e.unplaced ∧ expr.Holds 0 [] whole :=
    (ExprState.readAs_prints printed).inside trivial
  obtain ⟨first, rest, rfl, opens⟩ := printed.opens
  intro span
  obtain ⟨begun, fed, later⟩ := inside span
  -- Whether the first token is a name or not, the expression is under way after it.
  have started : ∃ phase, phase.expression? = some (.statement span.start, begun) ∧
      step ⟨.start, statements, outer, last⟩ ⟨first, span⟩ =
        .ok ⟨phase, statements, outer, span.stop⟩ := by
    obtain ⟨operand, ready, same⟩ := map_eq_ok.mp fed
    cases same
    cases first with
    | name text =>
        cases ready
        exact ⟨.name text span, rfl, rfl⟩
    | number | string | boolean | none | openParen | openBracket | openBrace | minus | not =>
        cases ready
        exact ⟨.expr (.statement span.start) _, rfl, rfl⟩
    | _ => cases opens
  obtain ⟨phase, reading, stepped⟩ := started
  refine ⟨_, stepped, (reads_expr later reading).mono ?_⟩
  rintro state ⟨expr, ⟨whole, same, held⟩, ended, rfl, rfl⟩
  exact ⟨whole, _, same, rfl, .statement ended held.complete⟩

/-- From where a brace opens a block of `opener`, the tokens lead to where that block is closed. -/
def ReadAsBlock (body : List Statement) (tokens : List Token) : Prop :=
  ∀ (state : ParseState) (opener : Opener) (statements : List Statement) (outer : List Outer),
    (∀ span, state.step ⟨.openBrace, span⟩ =
      .ok ⟨.start, [], ⟨opener, statements⟩ :: outer, span.stop⟩) →
    state.Reads tokens fun after =>
      ∃ read stop, read.map Statement.unplaced = body.map Statement.unplaced ∧
        after = closeBlock ⟨.ended, read, ⟨opener, statements⟩ :: outer, stop⟩
          ⟨opener, statements⟩ outer stop

theorem ReadAsBlock.branch {body : List Statement} {block : List Token}
    (inside : ReadAsBlock body block) (test : e.Prints tokens) (start : Nat)
    (before : List (Expr × List Statement)) (statements : List Statement) (outer : List Outer)
    (last : Nat) :
    Reads ⟨.expr (.condition start before) .initial, statements, outer, last⟩ (tokens ++ block)
      fun after => ∃ read stop place, unplacedBranch read = unplacedBranch (e, body) ∧
        after = ⟨.branchEnd start stop (before ++ [read]) false, statements, outer, place⟩ := by
  refine (reads_goal test rfl).append ?_
  rintro state ⟨condition, expr, same, complete, ended, rfl, rfl⟩
  refine (inside state (.branch start before condition) state.statements state.outer ?_).mono ?_
  · intro span
    have concluded : state.read ⟨.openBrace, span⟩ = _ := read_complete ended complete rfl nofun
    rw [step, concluded]
    rfl
  · rintro _ ⟨read, stop, sameBody, rfl⟩
    exact ⟨(condition, read), stop, stop, Prod.ext same sameBody, rfl⟩

mutual

theorem reads_printsStatement {statement : Statement} {tokens : List Token} :
    statement.Prints tokens →
    (statements : List Statement) → (outer : List Outer) → (last : Nat) →
    Reads ⟨.start, statements, outer, last⟩ tokens fun state =>
      ∃ read, read.unplaced = statement.unplaced ∧ Finishes (statements ++ [read]) outer state
  | .assign name _ after, statements, outer, last => by
      intro first
      refine ⟨⟨.name name first, statements, outer, first.stop⟩, rfl, ?_⟩
      intro sign
      refine ⟨⟨.expr (.assignment first.start name) .initial, statements, outer, sign.stop⟩, rfl,
        ?_⟩
      refine (reads_goal after rfl).mono ?_
      rintro state ⟨value, expr, same, complete, ended, rfl, rfl⟩
      exact ⟨.assign name value _, congrArg (Statement.assign name · ⟨0, 0⟩) same, rfl,
        .assignment ended complete⟩
  | .expr _ whole, statements, outer, last => by
      refine (reads_expression whole statements outer last).mono ?_
      rintro state ⟨e, span, same, finishes⟩
      exact ⟨.expr e span, congrArg (Statement.expr · ⟨0, 0⟩) same, finishes⟩
  | .cond _ whole, statements, outer, last => by
      refine (reads_printsBranches whole fun span => ⟨span.start, rfl⟩).mono ?_
      rintro _ ⟨branches, start, stop, place, same, rfl⟩
      refine ⟨.cond branches none ⟨start, stop⟩, ?_, ?_⟩
      · rw [Statement.unplaced_cond, Statement.unplaced_cond, same]
      · exact ⟨rfl, .branch start stop branches false statements outer place⟩
  | .condElse _ before after, statements, outer, last => by
      refine (reads_printsBranches before fun span => ⟨span.start, rfl⟩).append ?_
      rintro _ ⟨branches, start, stop, place, same, rfl⟩ word
      refine ⟨⟨.afterElse start branches, statements, outer, word.stop⟩, rfl, ?_⟩
      refine (reads_printsBlock after _ (.otherwise start branches) statements outer
        fun _ => rfl).mono ?_
      rintro _ ⟨body, stop, sameBody, rfl⟩
      refine ⟨.cond branches (some body) ⟨start, stop⟩, ?_, ?_⟩
      · rw [Statement.unplaced_condElse, Statement.unplaced_condElse, same, sameBody]
      · exact ⟨rfl, .ended _ outer stop⟩
  | .loop name _ among after, statements, outer, last => by
      intro word
      refine ⟨⟨.loopName word.start, statements, outer, word.stop⟩, rfl, ?_⟩
      intro label
      refine ⟨⟨.loopIn word.start name, statements, outer, label.stop⟩, rfl, ?_⟩
      intro between
      refine ⟨⟨.expr (.source word.start name) .initial, statements, outer, between.stop⟩, rfl, ?_⟩
      refine (reads_goal among rfl).append ?_
      rintro state ⟨source, expr, same, complete, ended, rfl, rfl⟩
      refine (reads_printsBlock after state (.loop word.start name source) state.statements
        state.outer ?_).mono ?_
      · intro span
        have concluded : state.read ⟨.openBrace, span⟩ = _ :=
          read_complete ended complete rfl nofun
        rw [step, concluded]
        rfl
      · rintro _ ⟨body, stop, sameBody, rfl⟩
        refine ⟨.loop name source body ⟨word.start, stop⟩, ?_, rfl, .ended _ state.outer stop⟩
        rw [Statement.unplaced_loop, Statement.unplaced_loop, same, sameBody]

/-- The word `if` leads to a condition from the start of a statement and from an `else`. -/
theorem reads_printsBranches {branches : List (Expr × List Statement)} {tokens : List Token}
    {state : ParseState} {before : List (Expr × List Statement)} {statements : List Statement}
    {outer : List Outer} :
    PrintsBranches branches tokens →
    (∀ span, ∃ start, state.step ⟨.ifWord, span⟩ =
      .ok ⟨.expr (.condition start before) .initial, statements, outer, span.stop⟩) →
    state.Reads tokens fun after =>
      ∃ read start stop place, read.map unplacedBranch = branches.map unplacedBranch ∧
        after = ⟨.branchEnd start stop (before ++ read) false, statements, outer, place⟩
  | .one test after, begins => by
      intro span
      obtain ⟨start, stepped⟩ := begins span
      refine ⟨_, stepped, ?_⟩
      refine ((reads_printsBlock after).branch test start before statements outer span.stop).mono ?_
      rintro _ ⟨read, stop, place, same, rfl⟩
      exact ⟨[read], start, stop, place, congrArg (· :: []) same, rfl⟩
  | .more test after later, begins => by
      intro span
      obtain ⟨start, stepped⟩ := begins span
      refine ⟨_, stepped, ?_⟩
      refine ((reads_printsBlock after).branch test start before statements outer
        span.stop).append ?_
      rintro _ ⟨read, stop, place, same, rfl⟩ word
      refine ⟨⟨.afterElse start (before ++ [read]), statements, outer, word.stop⟩, rfl, ?_⟩
      refine (reads_printsBranches later fun _ => ⟨start, rfl⟩).mono ?_
      rintro _ ⟨others, start, stop, place, sameOthers, rfl⟩
      refine ⟨read :: others, start, stop, place, ?_, ?_⟩
      · rw [List.map_cons, List.map_cons, same, sameOthers]
      · rw [List.append_assoc]
        rfl

theorem reads_printsBlock {body : List Statement} {tokens : List Token} :
    PrintsBlock body tokens → ReadAsBlock body tokens
  | .braces inside => by
      intro state opener statements outer opens opening
      refine ⟨_, opens opening, ?_⟩
      refine (reads_printsBody inside [] (⟨opener, statements⟩ :: outer) opening.stop).append ?_
      rintro after ⟨read, same, finishes⟩ closing
      exact ⟨_, finishes.closeBrace closing, read, closing.stop, same, rfl⟩

theorem reads_printsBody {body : List Statement} {tokens : List Token} :
    PrintsBody body tokens →
    (before : List Statement) → (outer : List Outer) → (last : Nat) →
    Reads ⟨.start, before, outer, last⟩ tokens fun state =>
      ∃ read, read.map Statement.unplaced = body.map Statement.unplaced ∧
        Finishes (before ++ read) outer state
  | .none, before, outer, last => by
      refine ⟨[], rfl, ?_⟩
      rw [List.append_nil]
      exact ⟨rfl, .start before outer last⟩
  | .one whole, before, outer, last => by
      refine (reads_printsStatement whole before outer last).mono ?_
      rintro state ⟨read, same, finishes⟩
      exact ⟨[read], congrArg (· :: []) same, finishes⟩
  | .more first later, before, outer, last => by
      refine (reads_printsStatement first before outer last).append ?_
      rintro state ⟨read, same, finishes⟩ span
      refine ⟨_, finishes.semicolon span, ?_⟩
      refine (reads_printsBody later (before ++ [read]) outer span.stop).mono ?_
      rintro after ⟨others, sameOthers, finishesAll⟩
      refine ⟨read :: others, ?_, ?_⟩
      · rw [List.map_cons, List.map_cons, same, sameOthers]
      · rwa [List.append_assoc] at finishesAll

end

theorem run_of_reads {reached : ParseState → Prop} {tokens : List Located}
    (reads : state.Reads (tokens.map Located.token) reached) :
    ∃ after, tokens.foldlM step state = .ok after ∧ reached after := by
  induction tokens generalizing state with
  | nil => exact ⟨state, rfl, reads⟩
  | cons next rest ih =>
      obtain ⟨moved, stepped, later⟩ := reads next.span
      obtain ⟨after, ran, last⟩ := ih later
      exact ⟨after, foldlM_cons_eq_ok.mpr ⟨moved, stepped, ran⟩, last⟩

end ParseState

/-- Every program without format strings can be printed, and however it is printed and wherever its
tokens stand, the parser gives that program back, up to the places in it. -/
theorem ofTokens_of_prints (program : Program) (plain : program.Plain) :
    (∃ tokens, program.Prints tokens) ∧
      ∀ (stop : Nat) (tokens : List Located), program.Prints (tokens.map Located.token) →
        ∃ read, Program.ofTokens stop tokens = .ok read ∧ read.unplaced = program.unplaced := by
  refine ⟨exists_printsBody program plain, ?_⟩
  intro stop tokens printed
  obtain ⟨state, ran, read, same, finishes⟩ :=
    ParseState.run_of_reads (ParseState.reads_printsBody printed [] [] 0)
  refine ⟨read, ?_, ?_⟩
  · have started : tokens.foldlM ParseState.step .initial = .ok state := ran
    simp only [Program.ofTokens, started, ParseState.finish_eq_ok_iff.mpr finishes]
    rfl
  · rw [Program.unplaced_eq_map, Program.unplaced_eq_map, same]

/-- `if (not (a and b)) { x = (a - b) * -c[0] }` -/
theorem ofTokens_of_prints_negated_connective :
    let place : Span := ⟨0, 0⟩
    let a := Expr.variable "a" place
    let b := Expr.variable "b" place
    let value := Expr.binary .multiply (.binary .subtract a b)
      (.unary .negation (.index (.variable "c" place) (.number 0) place))
    let program : Program := [.cond
      [(.unary .logicalNot (.binary .and a b), [.assign "x" value place])] none place]
    let tokens : List Token := [.ifWord, .openParen, .not true, .openParen, .name "a",
      .operator .and true, .name "b", .closeParen, .closeParen, .openBrace, .name "x", .assign,
      .openParen, .name "a", .minus, .name "b", .closeParen, .operator .multiply false, .minus,
      .name "c", .openBracket, .number 0, .closeBracket, .closeBrace]
    program.Plain ∧ program.Prints tokens ∧
      ∃ read, Program.ofTokens 24 (tokens.map (⟨·, place⟩)) = .ok read ∧
        read.unplaced = program.unplaced := by
  intro place a b value program tokens
  have plain : program.Plain := by
    simp [program, value, a, b, Program.Plain, PlainBody, Statement.Plain, PlainBranches,
      Expr.Plain]
  have andSign : (Token.operator .and true).binary? = some .and := rfl
  have timesSign : (Token.operator .multiply false).binary? = some .multiply := rfl
  have minusSign : Token.minus.binary? = some .subtract := rfl
  have aPrinted : a.Prints [.name "a"] := .variable "a" place
  have bPrinted : b.Prints [.name "b"] := .variable "b" place
  have test := Expr.Prints.notWord (.binary andSign aPrinted bPrinted)
  have product := Expr.Prints.binary timesSign (.binary minusSign aPrinted bPrinted)
    (.negation (.index place (.variable "c" place) (.number 0)))
  have printed : program.Prints tokens :=
    .one (.cond place (.one test (.braces (.one (.assign "x" place product)))))
  exact ⟨plain, printed, (ofTokens_of_prints program plain).2 24 _ printed⟩

end LiteratePages.Code
