import LiteratePages.Proofs.Code.Brackets
import LiteratePages.Proofs.Code.ProgramSteps

namespace LiteratePages.Code

/-- A token that a program accounts for. Spellings of one operator are one, and a minus sign is the
same before an operand as between two. -/
inductive Lexeme where
  | string (value : String)
  | number (value : Float)
  | boolean (value : Bool)
  | none
  /-- Without pieces, for a format string that cannot be read. -/
  | format (pieces : Option (List Piece))
  | name (text : String)
  | ifWord
  | elseWord
  | forWord
  | inWord
  | operator (op : Binary)
  | not
  | assign
  | colon
  | openBracket
  | closeBracket
  | openBrace
  | closeBrace

def Token.lexeme? : Token → Option Lexeme
  | .string value => some (.string value)
  | .number value => some (.number value)
  | .boolean value => some (.boolean value)
  | .none => some .none
  | .format body start => some (.format (readFormat body start).toOption)
  | .name text => some (.name text)
  | .ifWord => some .ifWord
  | .elseWord => some .elseWord
  | .forWord => some .forWord
  | .inWord => some .inWord
  | .operator op _ => some (.operator op)
  | .minus => some (.operator .subtract)
  | .not _ => some .not
  | .assign => some .assign
  | .colon => some .colon
  | .openBracket => some .openBracket
  | .closeBracket => some .closeBracket
  | .openBrace => some .openBrace
  | .closeBrace => some .closeBrace
  | .openParen | .closeParen | .comma | .semicolon | .newline => Option.none

theorem lexeme?_of_binary? {sign : Token} {op : Binary} (worded : sign.binary? = some op) :
    sign.lexeme? = some (.operator op) := by
  cases sign <;> cases worded <;> rfl

def Unary.lexeme : Unary → Lexeme
  | .negation => .operator .subtract
  | .logicalNot => .not

mutual

def Expr.lexemes : Expr → List Lexeme
  | .string value => [.string value]
  | .number value => [.number value]
  | .boolean value => [.boolean value]
  | .none => [.none]
  | .format pieces => [.format (some pieces)]
  | .list items => .openBracket :: lexemesOfAll items ++ [.closeBracket]
  | .map entries => .openBrace :: lexemesOfEntries entries ++ [.closeBrace]
  | .variable name _ => [.name name]
  | .call callee arguments _ => callee.lexemes ++ lexemesOfAll arguments
  | .index target position _ =>
      target.lexemes ++ .openBracket :: position.lexemes ++ [.closeBracket]
  | .unary op operand => op.lexeme :: operand.lexemes
  | .binary op left right => left.lexemes ++ .operator op :: right.lexemes
termination_by structural e => e

def lexemesOfAll : List Expr → List Lexeme
  | [] => []
  | e :: rest => e.lexemes ++ lexemesOfAll rest
termination_by structural es => es

def lexemesOfEntries : List (Expr × Expr) → List Lexeme
  | [] => []
  | (key, value) :: rest => key.lexemes ++ .colon :: value.lexemes ++ lexemesOfEntries rest
termination_by structural entries => entries

end

mutual

/-- Between the parts of a condition stands `else`. -/
def Statement.lexemes : Statement → List Lexeme
  | .assign name value _ => .name name :: .assign :: value.lexemes
  | .expr value _ => value.lexemes
  | .cond branches otherwise _ =>
      [Lexeme.elseWord].intercalate (lexemesOfBranches branches ++ match otherwise with
        | some body => [.openBrace :: lexemesOfBody body ++ [.closeBrace]]
        | none => [])
  | .loop name source body _ =>
      .forWord :: .name name :: .inWord :: source.lexemes ++
        .openBrace :: lexemesOfBody body ++ [.closeBrace]
termination_by structural statement => statement

def lexemesOfBranches : List (Expr × List Statement) → List (List Lexeme)
  | [] => []
  | (condition, body) :: rest =>
      (.ifWord :: condition.lexemes ++ .openBrace :: lexemesOfBody body ++ [.closeBrace]) ::
        lexemesOfBranches rest
termination_by structural branches => branches

def lexemesOfBody : List Statement → List Lexeme
  | [] => []
  | statement :: rest => statement.lexemes ++ lexemesOfBody rest
termination_by structural statements => statements

end

def Program.lexemes (program : Program) : List Lexeme := lexemesOfBody program

theorem lexemesOfAll_append (first second : List Expr) :
    lexemesOfAll (first ++ second) = lexemesOfAll first ++ lexemesOfAll second := by
  induction first with
  | nil => rfl
  | cons e rest ih => rw [List.cons_append, lexemesOfAll, lexemesOfAll, ih, List.append_assoc]

theorem lexemesOfEntries_append (first second : List (Expr × Expr)) :
    lexemesOfEntries (first ++ second) = lexemesOfEntries first ++ lexemesOfEntries second := by
  induction first with
  | nil => rfl
  | cons entry rest ih =>
      rw [List.cons_append, lexemesOfEntries, lexemesOfEntries, ih]
      simp

theorem lexemesOfBranches_append (first second : List (Expr × List Statement)) :
    lexemesOfBranches (first ++ second) = lexemesOfBranches first ++ lexemesOfBranches second := by
  induction first with
  | nil => rfl
  | cons branch rest ih => rw [List.cons_append, lexemesOfBranches, lexemesOfBranches, ih]; rfl

theorem lexemesOfBody_append (first second : List Statement) :
    lexemesOfBody (first ++ second) = lexemesOfBody first ++ lexemesOfBody second := by
  induction first with
  | nil => rfl
  | cons statement rest ih =>
      rw [List.cons_append, lexemesOfBody, lexemesOfBody, ih, List.append_assoc]

/-- What has been read before a further part of a condition. -/
def partsBefore (parts : List (List Lexeme)) : List Lexeme := parts.flatMap (· ++ [.elseWord])

theorem intercalate_concat (parts : List (List Lexeme)) (last : List Lexeme) :
    [Lexeme.elseWord].intercalate (parts ++ [last]) = partsBefore parts ++ last := by
  induction parts with
  | nil => simp [partsBefore]
  | cons first rest ih =>
      rw [List.cons_append, List.intercalate_cons_of_ne_nil (by simp), ih]
      simp [partsBefore]

theorem partsBefore_eq {parts : List (List Lexeme)} (some : parts ≠ []) :
    partsBefore parts = [Lexeme.elseWord].intercalate parts ++ [.elseWord] := by
  obtain ⟨others, last, rfl⟩ := (List.eq_nil_or_concat parts).resolve_left some
  rw [List.concat_eq_append, intercalate_concat]
  simp [partsBefore]

def Frame.lexemes : Frame → List Lexeme
  | .unary op _ => [op.lexeme]
  | .binary op left => left.lexemes ++ [.operator op]
  | .group _ => []
  | .list _ items => .openBracket :: lexemesOfAll items
  | .call _ callee arguments => callee.lexemes ++ lexemesOfAll arguments
  | .index _ target => target.lexemes ++ [.openBracket]
  | .key _ entries => .openBrace :: lexemesOfEntries entries
  | .entry _ entries label => .openBrace :: lexemesOfEntries entries ++ label.lexemes ++ [.colon]

def lexemesOfFrames : List Frame → List Lexeme
  | [] => []
  | frame :: rest => lexemesOfFrames rest ++ frame.lexemes

def ExprPhase.lexemes : ExprPhase → List Lexeme
  | .operand => []
  | .item _ items => .openBracket :: lexemesOfAll items
  | .argument _ callee arguments => callee.lexemes ++ lexemesOfAll arguments
  | .key _ entries | .entryEnd _ entries => .openBrace :: lexemesOfEntries entries
  | .colon _ entries label => .openBrace :: lexemesOfEntries entries ++ label.lexemes
  | .entry _ entries label => .openBrace :: lexemesOfEntries entries ++ label.lexemes ++ [.colon]
  | .after whole _ => whole.lexemes

/-- What has been read of an expression. -/
def ExprState.lexemes (state : ExprState) : List Lexeme :=
  lexemesOfFrames state.frames ++ state.phase.lexemes

theorem reduce_lexemes (level : Nat) (frames : List Frame) (e : Expr) :
    lexemesOfFrames (reduce level frames e).2 ++ (reduce level frames e).1.lexemes =
      lexemesOfFrames frames ++ e.lexemes := by
  induction frames generalizing e with
  | nil => rfl
  | cons frame rest ih =>
      cases frame with
      | unary op own =>
          rw [reduce]
          split
          · simp [ih, lexemesOfFrames, Frame.lexemes, Expr.lexemes]
          · rfl
      | binary op left =>
          rw [reduce]
          split
          · simp [ih, lexemesOfFrames, Frame.lexemes, Expr.lexemes]
          · rfl
      | _ => rfl

namespace ExprState

variable {state after : ExprState} {frames : List Frame} {next : Located} {e : Expr}

theorem startOperand_lexemes (read : startOperand readFormat frames next = .ok after) :
    after.lexemes = lexemesOfFrames frames ++ next.token.lexeme?.toList := by
  obtain ⟨token, span⟩ := next
  cases token with
  | format body start =>
      unfold startOperand at read
      dsimp only at read
      split at read
      · rename_i pieces format
        cases read
        simp [lexemes, ExprPhase.lexemes, Expr.lexemes, Token.lexeme?, format, Except.toOption]
      · cases read
  | openParen | openBracket | openBrace =>
      cases read
      simp [lexemes, ExprPhase.lexemes, lexemesOfFrames, Frame.lexemes, Token.lexeme?,
        lexemesOfAll, lexemesOfEntries]
  | minus | not =>
      cases read
      simp [lexemes, ExprPhase.lexemes, lexemesOfFrames, Frame.lexemes, Token.lexeme?, Unary.lexeme]
  | number | string | boolean | none | name =>
      cases read
      simp [lexemes, ExprPhase.lexemes, Expr.lexemes, Token.lexeme?]
  | _ => cases read

theorem closeFrame_lexemes (read : closeFrame e frames next = .ok (.more after)) :
    after.lexemes = lexemesOfFrames frames ++ e.lexemes ++ next.token.lexeme?.toList := by
  obtain ⟨token, span⟩ := next
  cases frames with
  | nil => cases read
  | cons frame rest =>
      cases frame <;> cases token <;> cases read <;>
        simp [lexemes, ExprPhase.lexemes, Expr.lexemes, Token.lexeme?, lexemesOfFrames,
          Frame.lexemes, lexemesOfAll_append, lexemesOfEntries_append, lexemesOfAll,
          lexemesOfEntries]

theorem lexemes_of_operandFrames (wanted : state.operandFrames = some frames) :
    state.lexemes = lexemesOfFrames frames := by
  obtain ⟨phase, others⟩ := state
  cases phase <;> cases wanted <;>
    simp [lexemes, ExprPhase.lexemes, lexemesOfFrames, Frame.lexemes]

/-- A token that an expression takes is one more lexeme of it, unless it only arranges others. -/
theorem feed_lexemes (read : state.feed readFormat next = .ok (.more after)) :
    after.lexemes = state.lexemes ++ next.token.lexeme?.toList := by
  cases step_of_feed read with
  | operand wanted started => rw [lexemes_of_operandFrames wanted, startOperand_lexemes started]
  | listEnd | callEnd | mapEnd | entriesEnd =>
      simp [lexemes, ExprPhase.lexemes, Expr.lexemes, Token.lexeme?]
  | keyLine | colonLine | colon | entryLine | entryEndLine | entryComma =>
      simp [lexemes, ExprPhase.lexemes, Token.lexeme?]
  | call | index =>
      simp [lexemes, ExprPhase.lexemes, lexemesOfFrames, Frame.lexemes, Token.lexeme?, lexemesOfAll]
  | @sign _ op worded e start frames span =>
      -- An operator closes others first, which moves lexemes from the frames to the operand.
      have moved := reduce_lexemes op.level frames e
      simp [lexemes, ExprPhase.lexemes, lexemesOfFrames, Frame.lexemes,
        lexeme?_of_binary? worded, ← moved]
  | close start closed =>
      rw [closeFrame_lexemes closed, reduce_lexemes]
      rfl

theorem Complete.lexemes {whole : Expr} (complete : state.Complete whole) :
    whole.lexemes = state.lexemes := by
  obtain ⟨phase, frames⟩ := state
  obtain ⟨e, start, rfl, closed⟩ := complete
  have kept := reduce_lexemes 0 frames e
  rw [closed] at kept
  exact kept

end ExprState

def Goal.lexemes : Goal → List Lexeme
  | .statement _ => []
  | .assignment _ name => [.name name, .assign]
  | .condition _ branches => partsBefore (lexemesOfBranches branches) ++ [.ifWord]
  | .source _ name => [.forWord, .name name, .inWord]

def Opener.lexemes : Opener → List Lexeme
  | .branch _ branches condition =>
      partsBefore (lexemesOfBranches branches) ++ .ifWord :: condition.lexemes ++ [.openBrace]
  | .otherwise _ branches => partsBefore (lexemesOfBranches branches) ++ [.openBrace]
  | .loop _ name source => .forWord :: .name name :: .inWord :: source.lexemes ++ [.openBrace]

def lexemesOfOuter : List Outer → List Lexeme
  | [] => []
  | block :: rest => lexemesOfOuter rest ++ lexemesOfBody block.statements ++ block.opener.lexemes

def Phase.lexemes : Phase → List Lexeme
  | .start | .ended => []
  | .name text _ => [.name text]
  | .expr goal state => goal.lexemes ++ state.lexemes
  | .loopName _ => [.forWord]
  | .loopIn _ item => [.forWord, .name item]
  | .afterElse _ branches => partsBefore (lexemesOfBranches branches)
  | .branchEnd _ _ branches _ => [Lexeme.elseWord].intercalate (lexemesOfBranches branches)

theorem Phase.lexemes_of_expression? {phase : Phase} {goal : Goal} {expr : ExprState}
    (reading : phase.expression? = some (goal, expr)) :
    phase.lexemes = goal.lexemes ++ expr.lexemes := by
  cases phase <;> cases reading <;> rfl

namespace ParseState

/-- What has been read of a program. -/
def lexemes (state : ParseState) : List Lexeme :=
  lexemesOfOuter state.outer ++ lexemesOfBody state.statements ++ state.phase.lexemes

/-- A condition that may go on has a branch. -/
def Branched (state : ParseState) : Prop :=
  match state.phase with
  | .branchEnd _ _ branches _ => branches ≠ []
  | _ => True

variable {state after : ParseState} {next : Located}

theorem add_lexemes (state : ParseState) (statement : Statement) :
    (state.add statement).lexemes =
      lexemesOfOuter state.outer ++ lexemesOfBody state.statements ++ statement.lexemes := by
  simp [lexemes, add, lexemesOfBody_append, lexemesOfBody, Phase.lexemes]

theorem openBlock_lexemes (state : ParseState) (opener : Opener) :
    (state.openBlock opener).lexemes =
      lexemesOfOuter state.outer ++ lexemesOfBody state.statements ++ opener.lexemes := by
  simp [lexemes, openBlock, lexemesOfOuter, lexemesOfBody, Phase.lexemes]

theorem closeBlock_lexemes (state : ParseState) (block : Outer) (rest : List Outer) (stop : Nat) :
    (state.closeBlock block rest stop).lexemes =
        lexemesOfOuter (block :: rest) ++ lexemesOfBody state.statements ++ [.closeBrace] ∧
      (state.closeBlock block rest stop).Branched := by
  obtain ⟨opener, statements⟩ := block
  cases opener with
  | branch start branches condition =>
      constructor
      · simp [lexemes, closeBlock, goto, Phase.lexemes, lexemesOfOuter, Opener.lexemes,
          lexemesOfBranches_append, lexemesOfBranches, intercalate_concat]
      · simp [Branched, closeBlock, goto]
  | otherwise start branches =>
      refine ⟨?_, trivial⟩
      rw [closeBlock, add_lexemes]
      simp [lexemesOfOuter, Opener.lexemes, Statement.lexemes, intercalate_concat]
  | loop start name source =>
      refine ⟨?_, trivial⟩
      rw [closeBlock, add_lexemes]
      simp [lexemesOfOuter, Opener.lexemes, Statement.lexemes]

theorem Body.lexemes {body : List Statement} (complete : state.Body body) :
    state.lexemes = lexemesOfOuter state.outer ++ lexemesOfBody body := by
  cases complete with
  | start | ended => exact List.append_nil _
  | statement reading whole | assignment reading whole =>
      simp [ParseState.lexemes, Phase.lexemes_of_expression? reading, ← whole.lexemes,
        lexemesOfBody_append, lexemesOfBody, Statement.lexemes, Goal.lexemes]
  | branch =>
      simp [ParseState.lexemes, Phase.lexemes, lexemesOfBody_append, lexemesOfBody,
        Statement.lexemes]

theorem read_lexemes (branched : state.Branched) (read : state.read next = .ok after) :
    after.lexemes = state.lexemes ++ next.token.lexeme?.toList ∧ after.Branched := by
  cases step_of_read read with
  | separator span separates complete =>
      refine ⟨?_, trivial⟩
      rw [complete.lexemes]
      rcases separates with rfl | ⟨rfl, _⟩ <;> rfl
  | @closeBlock body block rest span complete within =>
      rw [complete.lexemes, within]
      exact closeBlock_lexemes ..
  | ifWord span fresh complete | forWord span fresh complete | name text span fresh complete =>
      refine ⟨?_, trivial⟩
      rw [complete.lexemes]
      rfl
  | operand fresh complete other started =>
      refine ⟨?_, trivial⟩
      rw [complete.lexemes, ParseState.lexemes, Phase.lexemes,
        ExprState.startOperand_lexemes started]
      rfl
  | more reading fed =>
      refine ⟨?_, trivial⟩
      rw [lexemes, lexemes, Phase.lexemes_of_expression? reading]
      simp [goto, Phase.lexemes, ExprState.feed_lexemes fed]
  | branchBlock span reading whole | loopBlock span reading whole =>
      refine ⟨?_, trivial⟩
      rw [openBlock_lexemes]
      simp [lexemes, Phase.lexemes_of_expression? reading, ← whole.lexemes, Opener.lexemes,
        Goal.lexemes, Token.lexeme?]
  | elseBlock span waiting =>
      refine ⟨?_, trivial⟩
      rw [openBlock_lexemes]
      simp [lexemes, waiting, Phase.lexemes, Opener.lexemes, Token.lexeme?]
  | assign span waiting | elseIf span waiting | loopName text span waiting
  | loopIn span waiting =>
      refine ⟨?_, trivial⟩
      simp [lexemes, waiting, goto, Phase.lexemes, Goal.lexemes, ExprState.lexemes,
        ExprState.initial, ExprPhase.lexemes, lexemesOfFrames, Token.lexeme?]
  | laterLine span waiting =>
      refine ⟨?_, ?_⟩
      · simp [lexemes, waiting, goto, Phase.lexemes, Token.lexeme?]
      · rw [Branched, waiting] at branched
        exact branched
  | @elseWord start stop branches later span waiting =>
      rw [Branched, waiting] at branched
      have some : lexemesOfBranches branches ≠ [] := by
        cases branches with
        | nil => exact absurd rfl branched
        | cons branch rest => simp [lexemesOfBranches]
      refine ⟨?_, trivial⟩
      simp [lexemes, waiting, goto, Phase.lexemes, Token.lexeme?, partsBefore_eq some]

theorem step_lexemes (branched : state.Branched) (read : state.step next = .ok after) :
    after.lexemes = state.lexemes ++ next.token.lexeme?.toList ∧ after.Branched := by
  obtain ⟨reached, moved, rfl⟩ := map_eq_ok.mp read
  have kept := read_lexemes branched moved
  exact kept

theorem run_lexemes {tokens : List Located} (branched : state.Branched)
    (read : tokens.foldlM step state = .ok after) :
    after.lexemes = state.lexemes ++ tokens.filterMap (·.token.lexeme?) := by
  induction tokens generalizing state with
  | nil =>
      cases read
      exact (List.append_nil _).symm
  | cons next rest ih =>
      obtain ⟨reached, stepped, rest⟩ := foldlM_cons_eq_ok.mp read
      obtain ⟨kept, branched⟩ := step_lexemes branched stepped
      rw [ih branched rest, kept, List.append_assoc]
      cases lexeme : next.token.lexeme? <;> simp [lexeme]

theorem finish_lexemes {program : Program} (ended : state.finish = .ok program) :
    program.lexemes = state.lexemes := by
  obtain ⟨outermost, complete⟩ := finish_eq_ok_iff.mp ended
  rw [complete.lexemes, outermost]
  rfl

end ParseState

/-- Reading a program drops nothing and changes no order: its lexemes are those of its tokens, all
of which have been read. -/
theorem lexemes_ofTokens {stop : Nat} {tokens : List Located} {program : Program}
    (read : Program.ofTokens stop tokens = .ok program) :
    program.lexemes = tokens.filterMap (·.token.lexeme?) := by
  unfold Program.ofTokens at read
  split at read
  · cases read
  · rename_i state run
    split at read
    · cases read
    · rename_i complete ended
      cases read
      have branched : ParseState.initial.Branched := trivial
      rw [ParseState.finish_lexemes ended, ParseState.run_lexemes branched run]
      rfl

/-- A condition in parentheses, a comma after the last argument, an `else` on a later line, a map
that is closed on a line of its own and a semicolon before a brace. -/
theorem lexemes_ofTokens_else_on_later_line :
    let tokens := [Token.ifWord, .openParen, .name "a", .closeParen, .openBrace, .name "f",
      .openParen, .number 1, .comma, .closeParen, .closeBrace, .newline, .elseWord, .openBrace,
      .name "x", .assign, .openBrace, .string "k", .colon, .minus, .number 1, .newline, .closeBrace,
      .semicolon, .closeBrace].map fun token => Located.mk token ⟨0, 0⟩
    ∃ program, Program.ofTokens 0 tokens = .ok program ∧
      program.lexemes = tokens.filterMap (·.token.lexeme?) := by
  intro tokens
  have parsed : (Program.ofTokens 0 tokens).toOption.isSome := by decide +kernel
  cases read : Program.ofTokens 0 tokens with
  | error error =>
      rw [read] at parsed
      cases parsed
  | ok program => exact ⟨program, rfl, lexemes_ofTokens read⟩

end LiteratePages.Code
