import LiteratePages.Proofs.Agreement

namespace LiteratePages

variable {α β σ ε : Type}

/-- One thing holds of the value of a computation if it has one, and another of its error if not. -/
def Meets (value : α → Prop) (error : ε → Prop) : Except ε α → Prop
  | .ok a => value a
  | .error e => error e

namespace Meets

variable {value : α → Prop} {error : ε → Prop}

theorem mono {other : α → Prop} {failure : ε → Prop} {result : Except ε α}
    (meets : Meets value error result) (values : ∀ a, value a → other a)
    (errors : ∀ e, error e → failure e) : Meets other failure result := by
  cases result with
  | ok a => exact values a meets
  | error e => exact errors e meets

theorem bind {result : Except ε α} {next : α → Except ε β} {other : β → Prop}
    (meets : Meets value error result) (later : ∀ a, value a → Meets other error (next a)) :
    Meets other error (result >>= next) := by
  cases result with
  | ok a => exact later a meets
  | error e => exact meets

/-- What every step keeps of a state and of the items that are left holds at the end. -/
theorem foldlM {step : σ → α → Except ε σ} {invariant : σ → List α → Prop}
    (kept : ∀ s a rest, invariant s (a :: rest) → Meets (invariant · rest) error (step s a))
    {items : List α} {s : σ} (start : invariant s items) :
    Meets (invariant · []) error (items.foldlM step s) := by
  induction items generalizing s with
  | nil => exact start
  | cons a rest ih =>
      have stepped := kept s a rest start
      rw [List.foldlM_cons]
      cases result : step s a with
      | error e =>
          rw [result] at stepped
          exact stepped
      | ok next =>
          rw [result] at stepped
          exact ih stepped

theorem mapM {action : σ → Except ε α} {items : List σ}
    (each : ∀ s ∈ items, Meets value error (action s)) :
    Meets (fun results => ∀ a ∈ results, value a) error (items.mapM action) := by
  induction items with
  | nil => exact fun _ member => absurd member List.not_mem_nil
  | cons s rest ih =>
      have first := each s List.mem_cons_self
      have others := ih fun s member => each s (List.mem_cons_of_mem _ member)
      rw [List.mapM_cons]
      cases result : action s with
      | error e =>
          rw [result] at first
          exact first
      | ok a =>
          rw [result] at first
          cases results : rest.mapM action with
          | error e =>
              rw [results] at others
              exact others
          | ok more =>
              rw [results] at others
              intro found member
              rcases List.mem_cons.mp member with rfl | later
              · exact first
              · exact others found later

end Meets

/-- Something holds of the value of a computation if it has one. -/
def Gives (value : α → Prop) (result : Except ε α) : Prop := Meets value (fun _ => True) result

theorem gives_any (result : Except ε α) : Gives (fun _ => True) result := by
  cases result <;> trivial

end LiteratePages
