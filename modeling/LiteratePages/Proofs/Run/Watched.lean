import LiteratePages.Proofs.Run.Simulation

/-!
Code that runs with the statements under way in view. A fault is kept as it was raised: with the
place that it was given then, if any, and the places of the statements around it. A plain run gives
a fault without a place that of the innermost of these.
-/
namespace LiteratePages

/-- A fault as it is raised. The statements under way stand innermost first. -/
structure Raised where
  fault : Fault
  own : Option Code.Span
  under : List Code.Span

namespace Raised

/-- The places of all that is under way, innermost first. -/
def spans (raised : Raised) : List Code.Span := raised.own.toList ++ raised.under

def failure (raised : Raised) : Failure := ⟨raised.fault, raised.spans.head?⟩

end Raised

/-- From the statements under way and a machine. -/
def Watched (α : Type) : Type := List Code.Span → Machine → Except Raised α × Machine

namespace Watched

variable {α β : Type}

def pure (value : α) : Watched α := fun _ machine => (.ok value, machine)

def bind (first : Watched α) (next : α → Watched β) : Watched β := fun under machine =>
  match first under machine with
  | (.ok value, machine) => next value under machine
  | (.error raised, machine) => (.error raised, machine)

instance : Monad Watched where
  pure := pure
  bind := bind

/-- A plain action, what fails in which is raised here. -/
def plain (action : Run α) : Watched α := fun under machine =>
  match action machine with
  | (.ok value, machine) => (.ok value, machine)
  | (.error failure, machine) => (.error ⟨failure.fault, failure.span, under⟩, machine)

/-- Does an action as a part of the statement at `span`. -/
def inside (span : Code.Span) (action : Watched α) : Watched α := fun under machine =>
  action (span :: under) machine

def within (setting : Code.Setting) (depth : Nat) (action : Watched α) : Watched α :=
  match setting.limit with
  | some limit => if limit < depth then plain (Run.fail .stackOverflow none) else action
  | none => action

end Watched

theorem Watched.within_zero {α : Type} (setting : Code.Setting) (action : Watched α) :
    Watched.within setting 0 action = action := by
  unfold Watched.within
  cases setting.limit <;> rfl

/-- The actions of a run with the statements under way in view. -/
def Code.Setting.watched (setting : Setting) : Actions Watched where
  fail fault span := Watched.plain (Run.fail fault span)
  located := Watched.inside
  set name value := Watched.plain (Run.set name value)
  print text := Watched.plain (Run.print text)
  lookup name span := Watched.plain (Run.lookup name span)
  callHost name identity arguments span :=
    Watched.plain (Run.callHost setting.host name identity arguments span)
  within := Watched.within setting

namespace Watched

variable {α β : Type} {under : List Code.Span} {machine final : Machine} {raised : Raised}

theorem bind_eq_ok {first : Watched α} {next : α → Watched β} {result : β}
    (ran : (first >>= next) under machine = (.ok result, final)) :
    ∃ value reached, first under machine = (.ok value, reached) ∧
      next value under reached = (.ok result, final) := by
  change Watched.bind first next under machine = _ at ran
  unfold Watched.bind at ran
  split at ran
  · rename_i value reached done
    exact ⟨value, reached, done, ran⟩
  · cases ran

theorem bind_eq_error {first : Watched α} {next : α → Watched β}
    (ran : (first >>= next) under machine = (.error raised, final)) :
    first under machine = (.error raised, final) ∨
      ∃ value reached, first under machine = (.ok value, reached) ∧
        next value under reached = (.error raised, final) := by
  change Watched.bind first next under machine = _ at ran
  unfold Watched.bind at ran
  split at ran
  · rename_i value reached done
    exact .inr ⟨value, reached, done, ran⟩
  · rename_i failed
    cases ran
    exact .inl failed

theorem plain_eq_ok {action : Run α} {value : α}
    (ran : plain action under machine = (.ok value, final)) :
    action machine = (.ok value, final) := by
  unfold plain at ran
  split at ran
  · rename_i done
    cases ran
    exact done
  · cases ran

theorem plain_eq_error {action : Run α}
    (ran : plain action under machine = (.error raised, final)) :
    raised.under = under ∧ action machine = (.error ⟨raised.fault, raised.own⟩, final) := by
  unfold plain at ran
  split at ran
  · cases ran
  · rename_i failure reached failed
    cases ran
    exact ⟨rfl, failed⟩

end Watched

/-- The plain action does what the watched one does. A fault that the watched one raises has the
place that it was given, or that of the innermost statement that came under way in the action. -/
structure Watched.Shows {α : Type} (action : Run α) (watched : Watched α) : Prop where
  ok : ∀ {under machine value final}, watched under machine = (.ok value, final) →
    action machine = (.ok value, final)
  error : ∀ {under machine raised final}, watched under machine = (.error raised, final) →
    ∃ inner, raised.under = inner ++ under ∧
      action machine = (.error ⟨raised.fault, raised.own.or inner.head?⟩, final)

namespace Watched.Shows

variable {α β : Type}

theorem plain (action : Run α) : Shows action (Watched.plain action) where
  ok := plain_eq_ok
  error ran := by
    obtain ⟨around, failed⟩ := plain_eq_error ran
    exact ⟨[], around, by simpa using failed⟩

theorem pure (value : α) : Shows (Run.pure value) (Watched.pure value) where
  ok ran := by
    cases ran
    rfl
  error ran := by cases ran

theorem bind {first : Run α} {second : Watched α} {next : α → Run β} {follow : α → Watched β}
    (shows : Shows first second) (later : ∀ value, Shows (next value) (follow value)) :
    Shows (first.bind next) (second >>= follow) where
  ok ran := by
    obtain ⟨value, reached, before, after⟩ := bind_eq_ok ran
    simp only [Run.bind, shows.ok before, (later value).ok after]
  error ran := by
    rcases bind_eq_error ran with before | ⟨value, reached, before, after⟩
    · obtain ⟨inner, around, failed⟩ := shows.error before
      exact ⟨inner, around, by simp only [Run.bind, failed]⟩
    · obtain ⟨inner, around, failed⟩ := (later value).error after
      exact ⟨inner, around, by simp only [Run.bind, shows.ok before, failed]⟩

theorem inside {first : Run Unit} {second : Watched Unit} (span : Code.Span)
    (shows : Shows first second) : Shows (Run.located span first) (Watched.inside span second) where
  ok ran := by simp only [Run.located, shows.ok ran]
  error := by
    intro under machine raised final ran
    obtain ⟨inner, around, failed⟩ := shows.error ran
    refine ⟨inner ++ [span], by simp [around], ?_⟩
    cases own : raised.own with
    | some place => simp [Run.located, failed, own]
    | none => cases inner <;> simp [Run.located, failed, own]

theorem within {setting : Code.Setting} {first : Run α} {second : Watched α} (depth : Nat)
    (shows : Shows first second) :
    Shows (setting.within depth first) (Watched.within setting depth second) := by
  unfold Code.Setting.within Watched.within
  cases setting.limit with
  | none => exact shows
  | some limit =>
      dsimp only
      split
      · exact plain _
      · exact shows

/-- Code does the same when it is watched. -/
def simulation (setting : Code.Setting) : Code.Simulation id setting setting.watched where
  Holds := Shows
  pure := pure
  bind := bind
  fail fault span := by
    cases span <;> exact plain _
  located := inside
  set name value := plain _
  print text := plain _
  lookup name span := plain _
  callHost name identity arguments span := plain _
  within := within

theorem run (setting : Code.Setting) (program : Code.Program) :
    Shows (program.run setting) (program.runIn setting.watched) := by
  have shows := (simulation setting).run program
  rwa [program.relocate_id] at shows

theorem exec (setting : Code.Setting) (depth : Nat) (statement : Code.Statement) :
    Shows (statement.exec setting depth) (statement.execIn setting.watched depth) := by
  have shows := (simulation setting).exec depth statement
  rwa [statement.relocate_id] at shows

variable {action : Run α} {watched : Watched α} {machine final : Machine} {raised : Raised}

/-- With no statement under way before, the failure is what has been raised. -/
theorem failure (shows : Shows action watched) (ran : watched [] machine = (.error raised, final)) :
    action machine = (.error raised.failure, final) := by
  obtain ⟨inner, around, failed⟩ := shows.error ran
  rw [List.append_nil] at around
  rw [failed, Raised.failure, Raised.spans, around]
  cases raised.own <;> rfl

theorem raises {failure : Failure} (shows : Shows action watched)
    (failed : action machine = (.error failure, final)) :
    ∃ raised, watched [] machine = (.error raised, final) ∧ failure = raised.failure := by
  cases ran : watched [] machine with
  | mk result last =>
      cases result with
      | ok value => cases failed.symm.trans (shows.ok ran)
      | error raised =>
          cases failed.symm.trans (shows.failure ran)
          exact ⟨raised, rfl, rfl⟩

end Watched.Shows

end LiteratePages
