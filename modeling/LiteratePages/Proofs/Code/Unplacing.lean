import LiteratePages.Proofs.Code.Reparsing
import LiteratePages.Proofs.Code.ProgramRelocation

namespace LiteratePages.Code

/-- Puts every place at the start. -/
abbrev unplace : Nat → Nat := fun _ => 0

section

variable (first second : Nat → Nat)

mutual

theorem Expr.relocate_relocate :
    (e : Expr) → (e.relocate first).relocate second = e.relocate (second ∘ first)
  | .string _ | .number _ | .boolean _ | .none | .variable .. => rfl
  | .format pieces => by
      rw [Expr.relocate, Expr.relocate, Expr.relocate, relocatePieces_relocate pieces]
  | .list items => by
      rw [Expr.relocate, Expr.relocate, Expr.relocate, relocateAll_relocate items]
  | .map entries => by
      rw [Expr.relocate, Expr.relocate, Expr.relocate, relocateEntries_relocate entries]
  | .call callee arguments span => by
      rw [Expr.relocate, Expr.relocate, Expr.relocate, callee.relocate_relocate,
        relocateAll_relocate arguments]
      rfl
  | .index target position span => by
      rw [Expr.relocate, Expr.relocate, Expr.relocate, target.relocate_relocate,
        position.relocate_relocate]
      rfl
  | .unary op operand => by
      rw [Expr.relocate, Expr.relocate, Expr.relocate, operand.relocate_relocate]
  | .binary op left right => by
      rw [Expr.relocate, Expr.relocate, Expr.relocate, left.relocate_relocate,
        right.relocate_relocate]
termination_by structural e => e

theorem relocateAll_relocate :
    (es : List Expr) → relocateAll second (relocateAll first es) = relocateAll (second ∘ first) es
  | [] => rfl
  | e :: rest => by
      rw [relocateAll, relocateAll, relocateAll, e.relocate_relocate, relocateAll_relocate rest]
termination_by structural es => es

theorem relocateEntries_relocate : (entries : List (Expr × Expr)) →
    relocateEntries second (relocateEntries first entries) =
      relocateEntries (second ∘ first) entries
  | [] => rfl
  | (key, value) :: rest => by
      rw [relocateEntries, relocateEntries, relocateEntries, key.relocate_relocate,
        value.relocate_relocate, relocateEntries_relocate rest]
termination_by structural entries => entries

theorem relocatePieces_relocate : (pieces : List Piece) →
    relocatePieces second (relocatePieces first pieces) = relocatePieces (second ∘ first) pieces
  | [] => rfl
  | piece :: rest => by
      rw [relocatePieces, relocatePieces, relocatePieces, piece.relocate_relocate,
        relocatePieces_relocate rest]
termination_by structural pieces => pieces

theorem Piece.relocate_relocate :
    (piece : Piece) → (piece.relocate first).relocate second = piece.relocate (second ∘ first)
  | .text _ => rfl
  | .code e => by rw [Piece.relocate, Piece.relocate, Piece.relocate, e.relocate_relocate]
termination_by structural piece => piece

end
end

/-- Reads the body of a format string, wherever it stands. -/
def unplacedFormat (body : List Char) (_ : Nat) : Except SyntaxError (List Piece) :=
  (readFormat body 0).map (List.map (Piece.relocate unplace))

theorem readFormat_unplaced : FormatAgrees unplace readFormat unplacedFormat := by
  intro body start
  have shifted := readFormat_shift start body 0
  dsimp only at shifted
  rw [Nat.zero_add] at shifted
  unfold unplacedFormat
  rcases outcomes_of_toOption shifted with ⟨pieces, here, there⟩ | ⟨_, _, here, there⟩
  · rw [here, there]
    simp only [Except.map, Except.toOption, Option.map_some, List.map_map]
    refine congrArg some (List.map_congr_left fun piece _ => ?_)
    exact (piece.relocate_relocate (· + start) unplace).symm
  · rw [here, there]
    rfl

section Expressions

variable {state other : ExprState} {next twin : Located}

theorem ExprState.startOperand_alike {frames others : List Frame}
    (around : frames.map (Frame.relocate unplace) = others.map (Frame.relocate unplace))
    (token : next.relocate unplace = twin.relocate unplace) :
    (startOperand readFormat frames next).toOption.map (ExprState.relocate unplace) =
      (startOperand readFormat others twin).toOption.map (ExprState.relocate unplace) := by
  rw [← startOperand_relocate (readFormat_unplaced.on next), around, token,
    startOperand_relocate (readFormat_unplaced.on twin)]

theorem ExprState.feed_alike (same : state.relocate unplace = other.relocate unplace)
    (token : next.relocate unplace = twin.relocate unplace) :
    (state.feed readFormat next).toOption.map (ExprMove.relocate unplace) =
      (other.feed readFormat twin).toOption.map (ExprMove.relocate unplace) := by
  rw [← feed_relocate (readFormat_unplaced.on next), same, token,
    feed_relocate (readFormat_unplaced.on twin)]

end Expressions

namespace ParseState

variable {state other : ParseState} {next twin : Located}

theorem goto_alike (same : state.relocate unplace = other.relocate unplace) {phase place : Phase}
    (phases : phase.relocate unplace = place.relocate unplace) :
    (state.goto phase).relocate unplace = (other.goto place).relocate unplace := by
  have moved : ∀ (state : ParseState) (phase : Phase), (state.goto phase).relocate unplace =
      (state.relocate unplace).goto (phase.relocate unplace) := fun _ _ => rfl
  rw [moved, same, phases, moved]

theorem conclude_alike {goal purpose : Goal} {e whole : Expr}
    (same : state.relocate unplace = other.relocate unplace)
    (goals : goal.relocate unplace = purpose.relocate unplace)
    (values : e.relocate unplace = whole.relocate unplace)
    (token : next.relocate unplace = twin.relocate unplace) :
    (state.conclude goal e next).toOption.map (relocate unplace) =
      (other.conclude purpose whole twin).toOption.map (relocate unplace) := by
  rw [← conclude_relocate, same, goals, values, token, conclude_relocate]

theorem startExpr_alike (same : state.relocate unplace = other.relocate unplace)
    (token : next.relocate unplace = twin.relocate unplace) :
    (state.startExpr next).toOption.map (relocate unplace) =
      (other.startExpr twin).toOption.map (relocate unplace) := by
  unfold startExpr
  have none : ([] : List Frame).map (Frame.relocate unplace) =
    [].map (Frame.relocate unplace) := rfl
  rcases outcomes_of_map_eq (ExprState.startOperand_alike none token) with
    ⟨expr, expr', here, there, alike⟩ | ⟨_, _, here, there⟩
  · rw [here, there]
    refine congrArg some (goto_alike same ?_)
    rw [Phase.relocate, Phase.relocate, alike]
    rfl
  · rw [here, there]
    rfl

theorem feedExpr_alike {goal purpose : Goal} {expr expr' : ExprState}
    (same : state.relocate unplace = other.relocate unplace)
    (goals : goal.relocate unplace = purpose.relocate unplace)
    (exprs : expr.relocate unplace = expr'.relocate unplace)
    (token : next.relocate unplace = twin.relocate unplace) :
    (state.feedExpr goal expr next).toOption.map (relocate unplace) =
      (other.feedExpr purpose expr' twin).toOption.map (relocate unplace) := by
  unfold feedExpr
  rcases outcomes_of_map_eq (ExprState.feed_alike exprs token) with
    ⟨moved, moved', here, there, alike⟩ | ⟨_, _, here, there⟩
  · rw [here, there]
    cases moved with
    | more after =>
        cases moved' with
        | more after' =>
            refine congrArg some (goto_alike same ?_)
            rw [Phase.relocate, Phase.relocate, goals, ExprMove.more.inj alike]
        | done e => cases alike
    | done e =>
        cases moved' with
        | more after => cases alike
        | done e' => exact conclude_alike same goals (ExprMove.done.inj alike) token
  · rw [here, there]
    rfl

/-- A format string is read as the start of an expression, or where one goes on. -/
theorem read_format_alike {body : List Char} {start start' : Nat} {span span' : Span}
    (same : state.relocate unplace = other.relocate unplace) :
    (state.read ⟨.format body start, span⟩).toOption.map (relocate unplace) =
      (other.read ⟨.format body start', span'⟩).toOption.map (relocate unplace) := by
  have token : Located.relocate unplace ⟨.format body start, span⟩ =
      Located.relocate unplace ⟨.format body start', span'⟩ := rfl
  obtain ⟨phase, statements, outer, last⟩ := state
  obtain ⟨phase', statements', outer', last'⟩ := other
  have phases : phase.relocate unplace = phase'.relocate unplace := congrArg ParseState.phase same
  cases phase with
  | start =>
      cases phase' with
      | start => exact startExpr_alike same token
      | _ => cases phases
  | name text place =>
      cases phase' with
      | name text' place' =>
          cases phases
          have goals : (Goal.statement place.start).relocate unplace =
              (Goal.statement place'.start).relocate unplace := rfl
          have named : ExprState.relocate unplace
              ⟨.after (.variable text place) place.start, []⟩ =
                ExprState.relocate unplace ⟨.after (.variable text place') place'.start, []⟩ := rfl
          exact feedExpr_alike same goals named token
      | _ => cases phases
  | expr goal expr =>
      cases phase' with
      | expr goal' expr' =>
          obtain ⟨goals, exprs⟩ := Phase.expr.inj phases
          exact feedExpr_alike same goals exprs token
      | _ => cases phases
  | branchEnd start stop branches laterLine =>
      cases phase' with
      | branchEnd start' stop' branches' laterLine' =>
          obtain ⟨_, _, sameBranches, rfl⟩ := Phase.branchEnd.inj phases
          cases laterLine with
          | false => rfl
          | true =>
              refine startExpr_alike ?_ token
              have added : (Statement.cond branches none ⟨start, stop⟩).relocate unplace =
                  (Statement.cond branches' none ⟨start', stop'⟩).relocate unplace := by
                rw [Statement.relocate, Statement.relocate, sameBranches]
                rfl
              rw [add_relocate, same, added, add_relocate]
      | _ => cases phases
  | ended | loopName | loopIn | afterElse => cases phase' <;> first | rfl | cases phases

theorem read_alike (same : state.relocate unplace = other.relocate unplace)
    (token : next.relocate unplace = twin.relocate unplace) :
    (state.read next).toOption.map (relocate unplace) =
      (other.read twin).toOption.map (relocate unplace) := by
  have tokens : next.token.relocate unplace = twin.token.relocate unplace :=
    congrArg Located.token token
  by_cases formatted : ∃ body start, next.token = .format body start
  · obtain ⟨body, start, reached⟩ := formatted
    obtain ⟨first, span⟩ := next
    obtain ⟨second, span'⟩ := twin
    cases reached
    cases second with
    | format body' start' =>
        obtain ⟨rfl, _⟩ := Token.format.inj tokens
        exact read_format_alike same
    | _ => cases tokens
  · have plain : ∀ body start, twin.token ≠ .format body start := by
      intro body start reached
      rw [reached] at tokens
      cases first : next.token with
      | format body' start' => exact formatted ⟨body', start', first⟩
      | _ =>
          rw [first] at tokens
          cases tokens
    have here : FormatAgreesOn unplace readFormat readFormat next :=
      fun body start reached => absurd ⟨body, start, reached⟩ formatted
    have there : FormatAgreesOn unplace readFormat readFormat twin :=
      fun body start reached => absurd reached (plain body start)
    rw [← read_relocate here, same, token, read_relocate there]

theorem step_alike (same : state.relocate unplace = other.relocate unplace)
    (token : next.relocate unplace = twin.relocate unplace) :
    (state.step next).toOption.map (relocate unplace) =
      (other.step twin).toOption.map (relocate unplace) := by
  unfold step
  rcases outcomes_of_map_eq (read_alike same token) with
    ⟨after, after', here, there, alike⟩ | ⟨_, _, here, there⟩
  · rw [here, there]
    have placed : ∀ (state : ParseState) (last : Nat),
        relocate unplace { state with last } = state.relocate unplace := fun _ _ => rfl
    exact congrArg some ((placed after _).trans (alike.trans (placed after' _).symm))
  · rw [here, there]
    rfl

/-- Tokens that are the same up to places make up programs that are the same up to places. -/
theorem complete?_alike (same : state.relocate unplace = other.relocate unplace)
    {tokens others : List Located}
    (alike : tokens.map (Located.relocate unplace) = others.map (Located.relocate unplace)) :
    (state.complete? tokens).map Program.unplaced =
      (other.complete? others).map Program.unplaced := by
  have folded := foldlM_alike (relocate unplace) (Located.relocate unplace) step_alike alike same
  unfold complete?
  rcases outcomes_of_map_eq folded with ⟨after, after', here, there, ended⟩ | ⟨_, _, here, there⟩
  · rw [here, there]
    have finished : (after.relocate unplace).finish.toOption =
        after.finish.toOption.map Program.unplaced := finish_relocate after
    rw [ended, finish_relocate] at finished
    exact finished.symm
  · rw [here, there]
    rfl

end ParseState
end LiteratePages.Code
