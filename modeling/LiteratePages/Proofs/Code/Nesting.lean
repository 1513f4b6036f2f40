import LiteratePages.Proofs.Code.Brackets
import LiteratePages.Proofs.Code.ProgramSteps
import Mathlib.Data.List.Induction

/-!
The brackets that are open at a place of a program, told from the tokens before it. A curly bracket
opens a block behind an operand or an `else`, and a map anywhere else. The parser keeps a frame for
each, so that in a program that parses every bracket is closed by its own kind.
-/
namespace LiteratePages.Code

inductive Bracket where
  | round
  | square
  | map
  | block
deriving DecidableEq

/-- The lexer counts the bracket, and drops line feeds inside of it. -/
def Bracket.counted : Bracket → Bool
  | .round | .square => true
  | .map | .block => false

/-- The last token of an operand, or an `else`: a curly bracket behind it opens a block. -/
def Token.beforeBlock : Token → Bool
  | .number _ | .string _ | .format .. | .boolean _ | .none | .name _ | .closeParen | .closeBracket
  | .closeBrace | .elseWord => true
  | _ => false

/-- In a map the line can be broken behind such a token. -/
def Token.breaksAfter : Token → Bool
  | .openBrace | .comma | .colon | .newline => true
  | _ => false

/-- In a map the line can be broken before such a token. -/
def Token.breaksBefore : Token → Bool
  | .closeBrace | .comma | .colon | .newline => true
  | _ => false

theorem Token.not_beforeBlock {token : Token} (breaks : token.breaksAfter = true) :
    token.beforeBlock = false := by
  cases token <;> first | rfl | cases breaks

theorem Token.not_breaksAfter {token : Token} (ends : token.beforeBlock = true) :
    token.breaksAfter = false := by
  cases token <;> first | rfl | cases ends

/-- The brackets that are open behind some tokens, the innermost first, and the last token. -/
structure Nesting where
  last : Token
  brackets : List Bracket

namespace Nesting

/-- A program starts like a line of its own. -/
def initial : Nesting := ⟨.newline, []⟩

/-- The open brackets behind one more token. A closing one belongs to the innermost of them. -/
def bracketsAfter? (nesting : Nesting) (token : Token) : Option (List Bracket) :=
  match token, nesting.brackets with
  | .openParen, brackets => some (.round :: brackets)
  | .openBracket, brackets => some (.square :: brackets)
  | .openBrace, brackets => some ((if nesting.last.beforeBlock then .block else .map) :: brackets)
  | .closeParen, .round :: rest | .closeBracket, .square :: rest | .closeBrace, .map :: rest
  | .closeBrace, .block :: rest => some rest
  | .closeParen, _ | .closeBracket, _ | .closeBrace, _ => none
  | _, brackets => some brackets

def read? (nesting : Nesting) (token : Token) : Option Nesting :=
  (nesting.bracketsAfter? token).map (Nesting.mk token)

/-- The nesting behind the tokens at the start of a program, unless their brackets do not match. -/
def of? (tokens : List Located) : Option Nesting :=
  tokens.foldlM (fun nesting next => nesting.read? next.token) initial

/-- How many brackets the lexer counts. -/
def depth (nesting : Nesting) : Nat := nesting.brackets.countP Bracket.counted

/-- A bracket is open that is not that of a block. -/
def InLiteral (nesting : Nesting) : Prop := ∃ bracket ∈ nesting.brackets, bracket ≠ .block

/-- A round or a square bracket is open. -/
def InCounted (nesting : Nesting) : Prop := ∃ bracket ∈ nesting.brackets, bracket.counted = true

instance (nesting : Nesting) : Decidable nesting.InCounted := List.decidableBEx _ _

/-- Inside of brackets a line can be broken between the last token and the next one. -/
def Breaks (nesting : Nesting) (next : Token) : Prop :=
  nesting.InCounted ∨ nesting.last.breaksAfter = true ∨ next.breaksBefore = true

instance (nesting : Nesting) (next : Token) : Decidable (nesting.Breaks next) := instDecidableOr

variable {nesting after : Nesting} {token : Token}

theorem depth_read? (read : nesting.read? token = some after) :
    after.depth = token.depthAfter nesting.depth := by
  obtain ⟨last, brackets⟩ := nesting
  obtain ⟨left, found, rfl⟩ := Option.map_eq_some_iff.mp read
  cases token with
  | openParen | openBracket =>
      cases found
      simp [depth, List.countP_cons, Bracket.counted, Token.depthAfter]
  | openBrace =>
      cases found
      simp only [depth, List.countP_cons, Token.depthAfter]
      split <;> rfl
  | closeParen | closeBracket | closeBrace =>
      cases brackets with
      | nil => cases found
      | cons bracket rest =>
          cases bracket <;> cases found <;>
            simp [depth, List.countP_cons, Bracket.counted, Token.depthAfter]
  | _ =>
      cases found
      rfl

theorem of?_concat (tokens : List Located) (next : Located) :
    of? (tokens ++ [next]) = (of? tokens).bind fun nesting => nesting.read? next.token := by
  rw [of?, List.foldlM_append, of?]
  cases tokens.foldlM (fun nesting next => nesting.read? next.token) initial with
  | none => rfl
  | some nesting =>
      change (nesting.read? next.token).bind some = nesting.read? next.token
      exact Option.bind_fun_some _

/-- The lexer's count is that of the brackets it counts among those that are open. -/
theorem depth_of? {tokens : List Located} (read : of? tokens = some nesting) :
    nesting.depth = openBrackets 0 tokens := by
  induction tokens using List.reverseRecOn generalizing nesting with
  | nil =>
      cases read
      rfl
  | append_singleton tokens next ih =>
      rw [of?_concat] at read
      obtain ⟨before, earlier, later⟩ := Option.bind_eq_some_iff.mp read
      rw [depth_read? later, ih earlier, openBrackets_concat]

theorem depth_eq_zero_iff : nesting.depth = 0 ↔ ¬ nesting.InCounted := by
  simp [depth, InCounted, List.countP_eq_zero]

end Nesting

def Frame.bracket? : Frame → Option Bracket
  | .group .. | .call .. => some .round
  | .list .. | .index .. => some .square
  | .key .. | .entry .. => some .map
  | .unary .. | .binary .. => none

def ExprPhase.bracket? : ExprPhase → Option Bracket
  | .argument .. => some .round
  | .item .. => some .square
  | .key .. | .colon .. | .entry .. | .entryEnd .. => some .map
  | .operand | .after .. => none

def ExprState.brackets (state : ExprState) : List Bracket :=
  state.phase.bracket?.toList ++ state.frames.filterMap Frame.bracket?

/-- The brackets of the expression under way. -/
def Phase.brackets : Phase → List Bracket
  | .expr _ state => state.brackets
  | _ => []

def ParseState.brackets (state : ParseState) : List Bracket :=
  state.phase.brackets ++ state.outer.map fun _ => .block

/-- What the last token can be in a phase. -/
def ExprPhase.Follows (last : Token) : ExprPhase → Prop
  | .operand => last.beforeBlock = false ∧ last.breaksAfter = false
  | .item .. | .argument .. => last.beforeBlock = false
  | .key .. | .colon .. | .entry .. | .entryEnd .. => last.breaksAfter = true
  | .after .. => last.beforeBlock = true

def Phase.Follows (last : Token) : Phase → Prop
  | .start | .branchEnd _ _ _ true => last.beforeBlock = false
  | .name .. | .afterElse .. => last.beforeBlock = true
  | .expr _ state => state.phase.Follows last
  | .ended | .loopName .. | .loopIn .. | .branchEnd _ _ _ false => True

theorem brackets_reduce (level : Nat) (frames : List Frame) (e : Expr) :
    (reduce level frames e).2.filterMap Frame.bracket? = frames.filterMap Frame.bracket? := by
  induction frames generalizing e with
  | nil => rfl
  | cons frame rest ih =>
      cases frame with
      | unary op own =>
          rw [reduce]
          split
          · exact ih _
          · rfl
      | binary op left =>
          rw [reduce]
          split
          · exact ih _
          · rfl
      | _ => rfl

theorem Nesting.read?_binary {sign : Token} {op : Binary} (worded : sign.binary? = some op)
    (last : Token) (brackets : List Bracket) :
    Nesting.read? ⟨last, brackets⟩ sign = some ⟨sign, brackets⟩ := by
  cases sign <;> cases worded <;> rfl

theorem not_beforeBlock_of_binary? {sign : Token} {op : Binary} (worded : sign.binary? = some op) :
    sign.beforeBlock = false ∧ sign.breaksAfter = false := by
  cases sign <;> cases worded <;> exact ⟨rfl, rfl⟩

namespace ExprState

variable {format : List Char → Nat → Except SyntaxError (List Piece)} {state after : ExprState}
  {frames : List Frame} {next : Located} {e : Expr} {nesting : Nesting} {around : List Bracket}

/-- The open brackets are those of the expression and then those `around` it. -/
def Nests (state : ExprState) (around : List Bracket) (nesting : Nesting) : Prop :=
  nesting.brackets = state.brackets ++ around ∧ state.phase.Follows nesting.last

theorem startOperand_nests (started : startOperand format frames next = .ok after)
    (same : nesting.brackets = frames.filterMap Frame.bracket? ++ around)
    (fresh : nesting.last.beforeBlock = false) :
    ∃ reached, nesting.read? next.token = some reached ∧ after.Nests around reached := by
  obtain ⟨token, span⟩ := next
  obtain ⟨last, brackets⟩ := nesting
  obtain rfl : brackets = _ := same
  cases token with
  | format body place =>
      unfold startOperand at started
      dsimp only at started
      split at started
      · cases started
        exact ⟨_, rfl, rfl, rfl⟩
      · cases started
  | openBrace =>
      cases started
      refine ⟨⟨.openBrace, .map :: frames.filterMap Frame.bracket? ++ around⟩, ?_, rfl, rfl⟩
      have opens : last.beforeBlock = false := fresh
      simp [Nesting.read?, Nesting.bracketsAfter?, opens]
  | openBracket | number | string | boolean | none | name =>
      cases started
      exact ⟨_, rfl, rfl, rfl⟩
  | openParen | minus | not =>
      cases started
      exact ⟨_, rfl, rfl, rfl, rfl⟩
  | _ => cases started

theorem closeFrame_nests (closed : closeFrame e frames next = .ok (.more after))
    (same : nesting.brackets = frames.filterMap Frame.bracket? ++ around) :
    ∃ reached, nesting.read? next.token = some reached ∧ after.Nests around reached := by
  obtain ⟨token, span⟩ := next
  obtain ⟨last, brackets⟩ := nesting
  obtain rfl : brackets = _ := same
  cases frames with
  | nil => cases closed
  | cons frame rest => cases frame <;> cases token <;> cases closed <;> exact ⟨_, rfl, rfl, rfl⟩

theorem operandFrames_nests (wanted : state.operandFrames = some frames)
    (nests : state.Nests around nesting) :
    nesting.brackets = frames.filterMap Frame.bracket? ++ around ∧
      nesting.last.beforeBlock = false := by
  obtain ⟨same, follows⟩ := nests
  obtain ⟨phase, others⟩ := state
  cases phase with
  | operand =>
      cases wanted
      exact ⟨same, follows.1⟩
  | item | argument =>
      cases wanted
      exact ⟨same, follows⟩
  | key | entry =>
      cases wanted
      exact ⟨same, Token.not_beforeBlock follows⟩
  | _ => cases wanted

/-- A token of an expression opens and closes the brackets that the expression does. -/
theorem feed_nests (nests : state.Nests around nesting)
    (fed : state.feed format next = .ok (.more after)) :
    ∃ reached, nesting.read? next.token = some reached ∧ after.Nests around reached := by
  cases step_of_feed fed with
  | operand wanted started =>
      obtain ⟨same, fresh⟩ := operandFrames_nests wanted nests
      exact startOperand_nests started same fresh
  | listEnd | callEnd | keyLine | mapEnd | colonLine | colon | entryLine | entryEndLine
  | entryComma | entriesEnd | call =>
      obtain ⟨last, brackets⟩ := nesting
      obtain ⟨rfl, _⟩ := nests
      exact ⟨_, rfl, rfl, rfl⟩
  | index =>
      obtain ⟨last, brackets⟩ := nesting
      obtain ⟨rfl, _⟩ := nests
      exact ⟨_, rfl, rfl, rfl, rfl⟩
  | @sign sign op worded e start frames span =>
      obtain ⟨last, brackets⟩ := nesting
      obtain ⟨rfl, _⟩ := nests
      refine ⟨_, Nesting.read?_binary worded .., ?_, not_beforeBlock_of_binary? worded⟩
      have reduced := brackets_reduce op.level frames e
      exact congrArg (· ++ around) reduced.symm
  | @close e frames _ _ start closed =>
      refine closeFrame_nests closed ?_
      rw [brackets_reduce]
      exact nests.1

theorem Complete.brackets {whole : Expr} (complete : state.Complete whole) :
    state.brackets = [] := by
  obtain ⟨phase, frames⟩ := state
  obtain ⟨e, start, rfl, closed⟩ := complete
  have reduced := brackets_reduce 0 frames e
  rw [closed] at reduced
  exact reduced.symm

theorem Complete.beforeBlock {whole : Expr} (complete : state.Complete whole) {last : Token}
    (follows : state.phase.Follows last) : last.beforeBlock = true := by
  obtain ⟨_, _, after, _⟩ := complete
  rw [after] at follows
  exact follows

end ExprState

namespace Phase

variable {phase : Phase} {goal : Goal} {expr : ExprState} {last : Token}

theorem brackets_of_expression? (reading : phase.expression? = some (goal, expr)) :
    phase.brackets = expr.brackets := by
  cases phase <;> cases reading <;> rfl

theorem follows_of_expression? (reading : phase.expression? = some (goal, expr))
    (follows : phase.Follows last) : expr.phase.Follows last := by
  cases phase <;> cases reading <;> exact follows

theorem not_beforeBlock_of_fresh (fresh : phase.fresh = true) (follows : phase.Follows last) :
    last.beforeBlock = false := by
  cases phase with
  | start => exact follows
  | branchEnd start stop branches laterLine =>
      cases laterLine with
      | true => exact follows
      | false => cases fresh
  | _ => cases fresh

end Phase

namespace ParseState

variable {state after : ParseState} {next : Located} {nesting : Nesting}

/-- The open brackets are those of the expression under way and then those of the blocks. -/
def Nests (state : ParseState) (nesting : Nesting) : Prop :=
  nesting.brackets = state.brackets ∧ state.phase.Follows nesting.last

theorem Body.brackets {body : List Statement} (complete : state.Body body) :
    state.phase.brackets = [] := by
  cases complete with
  | start | ended | branch => rfl
  | statement reading whole | assignment reading whole =>
      rw [Phase.brackets_of_expression? reading, whole.brackets]

theorem closeBlock_nests (state : ParseState) (block : Outer) (rest : List Outer) (stop : Nat) :
    (state.closeBlock block rest stop).Nests ⟨.closeBrace, rest.map fun _ => .block⟩ := by
  obtain ⟨opener, statements⟩ := block
  cases opener <;> exact ⟨rfl, trivial⟩

theorem read_nests (nests : state.Nests nesting) (read : state.read next = .ok after) :
    ∃ reached, nesting.read? next.token = some reached ∧ after.Nests reached := by
  obtain ⟨same, follows⟩ := nests
  obtain ⟨last, brackets⟩ := nesting
  obtain rfl : brackets = _ := same
  have outside : ∀ {body}, state.Body body → state.brackets = state.outer.map fun _ => .block := by
    intro body complete
    rw [ParseState.brackets, complete.brackets]
    rfl
  -- The curly bracket of a block comes behind an operand or an `else`.
  have opens : ∀ opener span, last.beforeBlock = true → state.phase.brackets = [] →
      ∃ reached, Nesting.read? ⟨last, state.brackets⟩ (Located.mk .openBrace span).token =
        some reached ∧ (state.openBlock opener).Nests reached := by
    intro opener span behind none
    refine ⟨⟨.openBrace, .block :: state.brackets⟩, ?_, ?_, rfl⟩
    · simp [Nesting.read?, Nesting.bracketsAfter?, behind]
    · rw [ParseState.brackets, none]
      rfl
  cases step_of_read read with
  | separator span separates complete =>
      rw [outside complete]
      rcases separates with rfl | ⟨rfl, _⟩ <;> exact ⟨_, rfl, rfl, rfl⟩
  | closeBlock span complete within =>
      rw [outside complete, within]
      exact ⟨_, rfl, closeBlock_nests ..⟩
  | ifWord span fresh complete =>
      rw [outside complete]
      exact ⟨_, rfl, rfl, rfl, rfl⟩
  | forWord span fresh complete =>
      rw [outside complete]
      exact ⟨_, rfl, rfl, trivial⟩
  | name text span fresh complete =>
      rw [outside complete]
      exact ⟨_, rfl, rfl, rfl⟩
  | operand fresh complete other started =>
      rw [outside complete]
      exact ExprState.startOperand_nests started rfl (Phase.not_beforeBlock_of_fresh fresh follows)
  | more reading fed =>
      refine ExprState.feed_nests ⟨?_, Phase.follows_of_expression? reading follows⟩ fed
      rw [ParseState.brackets, Phase.brackets_of_expression? reading]
      rfl
  | branchBlock span reading whole | loopBlock span reading whole =>
      refine opens _ span (whole.beforeBlock (Phase.follows_of_expression? reading follows)) ?_
      rw [Phase.brackets_of_expression? reading, whole.brackets]
  | elseBlock span waiting =>
      rw [waiting] at follows
      exact opens _ span follows (by rw [waiting]; rfl)
  | assign span waiting | elseIf span waiting | loopIn span waiting =>
      rw [ParseState.brackets, waiting]
      exact ⟨_, rfl, rfl, rfl, rfl⟩
  | loopName text span waiting =>
      rw [ParseState.brackets, waiting]
      exact ⟨_, rfl, rfl, trivial⟩
  | laterLine span waiting | elseWord span waiting =>
      rw [ParseState.brackets, waiting]
      exact ⟨_, rfl, rfl, rfl⟩

theorem step_nests (nests : state.Nests nesting) (read : state.step next = .ok after) :
    ∃ reached, nesting.read? next.token = some reached ∧ after.Nests reached := by
  obtain ⟨moved, stepped, rfl⟩ := map_eq_ok.mp read
  obtain ⟨reached, opened, after⟩ := read_nests nests stepped
  exact ⟨reached, opened, after⟩

/-- The brackets of tokens that have been read match, and the parser's frames are those open. -/
theorem run_nests {tokens : List Located} (read : tokens.foldlM step .initial = .ok state) :
    ∃ nesting, Nesting.of? tokens = some nesting ∧ state.Nests nesting := by
  induction tokens using List.reverseRecOn generalizing state with
  | nil =>
      cases read
      exact ⟨_, rfl, rfl, rfl⟩
  | append_singleton tokens next ih =>
      obtain ⟨before, earlier, stepped⟩ := foldlM_concat_eq_ok.mp read
      obtain ⟨nesting, nested, nests⟩ := ih earlier
      obtain ⟨reached, last, after⟩ := step_nests nests stepped
      exact ⟨reached, by rw [Nesting.of?_concat, nested]; exact last, after⟩

theorem finish_nests {program : Program} (ended : state.finish = .ok program)
    (nests : state.Nests nesting) : nesting.brackets = [] := by
  obtain ⟨outermost, complete⟩ := finish_eq_ok_iff.mp ended
  rw [nests.1, ParseState.brackets, complete.brackets, outermost]
  rfl

end ParseState

/-- When the tokens of a text make up a program, no bracket is open at its end. -/
theorem depth_eq_zero {base : Nat} {text : List Char} {state : LexState} {tokens : List Located}
    {reached : ParseState} {program : Program}
    (ran : LexState.run base (.initial base) text = .ok state)
    (lexed : state.finish = .ok tokens)
    (read : tokens.foldlM ParseState.step .initial = .ok reached)
    (parsed : reached.finish = .ok program) : state.depth = 0 := by
  have start : (LexState.initial base).Counted := rfl
  obtain ⟨nesting, nested, nests⟩ := ParseState.run_nests read
  rw [(start.run ran).finish lexed, ← Nesting.depth_of? nested, Nesting.depth,
    ParseState.finish_nests parsed nests]
  rfl

end LiteratePages.Code
