import LiteratePages.Proofs.Agreement
import LiteratePages.Run.Evaluation

namespace LiteratePages

/-- The failure with a place, which is `span` if it had none. -/
def Failure.placed (span : Code.Span) (failure : Failure) : Failure :=
  ⟨failure.fault, some (failure.span.getD span)⟩

namespace Run

variable {α β : Type} {machine reached : Machine}

theorem bind_of_ok {first : Run α} {value : α} (next : α → Run β)
    (ran : first machine = (.ok value, reached)) : first.bind next machine = next value reached := by
  simp only [Run.bind, ran]

theorem bind_of_error {first : Run α} {failure : Failure} (next : α → Run β)
    (ran : first machine = (.error failure, reached)) :
    first.bind next machine = (.error failure, reached) := by
  simp only [Run.bind, ran]

/-- What comes of a computation comes of its second part, or of the first one if that fails. -/
@[elab_as_elim]
theorem bind_elim {motive : Except Failure β × Machine → Prop} (first : Run α) (next : α → Run β)
    (machine : Machine)
    (ok : ∀ value reached, first machine = (.ok value, reached) → motive (next value reached))
    (error : ∀ failure reached, first machine = (.error failure, reached) →
      motive (.error failure, reached)) :
    motive (first.bind next machine) := by
  cases ran : first machine with
  | mk result reached =>
      cases result with
      | ok value =>
          rw [bind_of_ok next ran]
          exact ok value reached ran
      | error failure =>
          rw [bind_of_error next ran]
          exact error failure reached ran

theorem located_eq (span : Code.Span) (action : Run α) (machine : Machine) :
    Run.located span action machine =
      ((action machine).1.mapError (Failure.placed span), (action machine).2) := by
  cases ran : action machine with
  | mk result reached =>
      cases result with
      | ok value => simp only [Run.located, ran, mapError_ok]
      | error failure =>
          obtain ⟨fault, own⟩ := failure
          cases own <;> simp only [Run.located, ran, mapError_error] <;> rfl

theorem lift_eq (result : Except Fault α) (span : Option Code.Span) (machine : Machine) :
    Run.lift result span machine = (result.mapError (⟨·, span⟩), machine) := by
  cases result <;> rfl

theorem callHost_eq (host : Host) (name : String) (identity : Nat) (arguments : List Value)
    (span : Code.Span) (machine : Machine) :
    Run.callHost host name identity arguments span machine =
      ((host name identity arguments).result.mapError (⟨·, some span⟩),
        ⟨machine.scope, machine.output ++ (host name identity arguments).printed,
          machine.journal ++ (host name identity arguments).journal⟩) :=
  lift_eq _ _ _

/-- Looking a variable up makes a function at most. -/
theorem lookup_snd (name : String) (span : Code.Span) (machine : Machine) :
    ∃ made, (Run.lookup name span machine).2 =
      { machine with scope := ⟨machine.scope.bindings, made⟩ } := by
  unfold Run.lookup
  split
  · exact ⟨machine.scope.made, rfl⟩
  · split
    · exact ⟨machine.scope.made + 1, rfl⟩
    · exact ⟨machine.scope.made, rfl⟩

end Run

/-- The later machine has the output of this one, and perhaps more. -/
def Machine.PrintsOn (machine later : Machine) : Prop :=
  ∃ more, later.output = machine.output ++ more

namespace Machine.PrintsOn

theorem refl (machine : Machine) : machine.PrintsOn machine := ⟨"", by simp⟩

theorem trans {first second third : Machine} (before : first.PrintsOn second)
    (after : second.PrintsOn third) : first.PrintsOn third := by
  obtain ⟨some, printed⟩ := before
  obtain ⟨more, further⟩ := after
  exact ⟨some ++ more, by rw [further, printed, String.append_assoc]⟩

end Machine.PrintsOn

namespace Code

/-- What is on this level may run. -/
def Setting.Admits (setting : Setting) (depth : Nat) : Prop :=
  ∀ limit, setting.limit = some limit → depth ≤ limit

theorem Setting.Admits.mono {setting : Setting} {depth deeper : Nat}
    (admitted : setting.Admits deeper) (less : depth ≤ deeper) : setting.Admits depth :=
  fun limit is => Nat.le_trans less (admitted limit is)

theorem Setting.within_of_admits {setting : Setting} {depth : Nat} (admitted : setting.Admits depth)
    {α : Type} (action : Run α) : setting.within depth action = action := by
  unfold Setting.within
  cases limit : setting.limit with
  | none => rfl
  | some limit' => exact if_neg (Nat.not_lt.mpr (admitted limit' limit))

/-- On one level all that runs is admitted, or all is refused. -/
theorem Setting.within_eq_or (setting : Setting) (depth : Nat) :
    (∀ {α : Type} (action : Run α), setting.within depth action = action) ∨
      ∀ {α : Type} (action : Run α),
        setting.within depth action = Run.fail .stackOverflow none := by
  unfold Setting.within
  cases setting.limit with
  | none => exact .inl fun _ => rfl
  | some limit =>
      by_cases deep : limit < depth
      · exact .inr fun _ => if_pos deep
      · exact .inl fun _ => if_neg deep

end Code
end LiteratePages
