import LiteratePages.Proofs.Code.ExpressionSteps

namespace LiteratePages.Code

/-- A token that neither goes on with an operand nor is an operator. -/
def Token.ends : Token → Bool
  | .openParen | .openBracket | .operator .. | .minus => false
  | _ => true

namespace ExprState

variable {format : List Char → Nat → Except SyntaxError (List Piece)} {state : ExprState}
  {frames : List Frame} {next : Located} {e whole : Expr}

/-- What has been read is `whole`, once all its operators are closed. -/
def Complete (state : ExprState) (whole : Expr) : Prop :=
  ∃ e start, state.phase = .after e start ∧ reduce 0 state.frames e = (whole, [])

theorem closeFrame_eq_done (read : closeFrame e frames next = .ok (.done whole)) :
    frames = [] ∧ whole = e := by
  obtain ⟨token, span⟩ := next
  cases frames with
  | nil =>
      cases read
      exact ⟨rfl, rfl⟩
  | cons frame rest => cases frame <;> cases token <;> cases read

theorem complete_of_feed_done (read : state.feed format next = .ok (.done whole)) :
    state.Complete whole := by
  cases step_of_feed read with
  | close start closed =>
      obtain ⟨outermost, rfl⟩ := closeFrame_eq_done closed
      exact ⟨_, start, rfl, Prod.ext rfl outermost⟩

theorem finish_eq_ok_iff : state.finish = .ok whole ↔ state.Complete whole := by
  obtain ⟨phase, frames⟩ := state
  constructor
  · intro ended
    cases phase with
    | after e start =>
        refine ⟨e, start, rfl, ?_⟩
        unfold finish at ended
        dsimp only at ended
        split at ended
        · rename_i closed
          cases ended
          exact closed
        · cases ended
    | _ => cases ended
  · rintro ⟨e, start, rfl, closed⟩
    simp only [finish, closed]

theorem Complete.feed (complete : state.Complete whole) (ends : next.token.ends = true) :
    state.feed format next = .ok (.done whole) := by
  obtain ⟨phase, frames⟩ := state
  obtain ⟨last, start, rfl, closed⟩ := complete
  obtain ⟨token, span⟩ := next
  have outermost : closeFrame (reduce 0 frames last).1 (reduce 0 frames last).2 ⟨token, span⟩ =
      .ok (.done whole) := by
    rw [closed]
    rfl
  cases token with
  | openParen | openBracket | operator | minus => cases ends
  | _ => exact outermost

end ExprState
end LiteratePages.Code
