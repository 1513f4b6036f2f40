import LiteratePages.Proofs.Run.Invariant
import LiteratePages.Proofs.Run.Machine
import LiteratePages.Proofs.Run.Relation
import LiteratePages.Template.Engine

namespace LiteratePages

/-- The first run fails because its code goes too deep, and the second run, however it ends, prints
what the first one did before that. -/
structure CutShort {α : Type} (first second : Except Failure α × Machine) : Prop where
  overflow : ∃ span, first.1 = .error ⟨.stackOverflow, span⟩
  printed : first.2.PrintsOn second.2

/-- Either both runs are the same or the first one is cut short. -/
def SameOrCut {α : Type} (first second : Except Failure α × Machine) : Prop :=
  first = second ∨ CutShort first second

namespace Code

/-- The second computation does as the first one does where that is not cut short, and takes back
nothing that was printed. -/
def Unlimits {α : Type} (first second : Run α) : Prop :=
  ∀ machine, SameOrCut (first machine) (second machine) ∧ machine.PrintsOn (second machine).2

namespace Unlimits

variable {α β : Type} {first second : Run α}

theorem refl {action : Run α} (prints : ∀ machine : Machine, machine.PrintsOn (action machine).2) :
    Unlimits action action :=
  fun machine => ⟨.inl rfl, prints machine⟩

theorem bind {next follow : α → Run β} (related : Unlimits first second)
    (later : ∀ value, Unlimits (next value) (follow value)) :
    Unlimits (first.bind next) (second.bind follow) := by
  intro machine
  obtain ⟨compared, prints⟩ := related machine
  have further : (second machine).2.PrintsOn (second.bind follow machine).2 := by
    refine Run.bind_elim second follow machine ?_ ?_
    · intro value reached ran
      rw [ran]
      exact (later value reached).2
    · intro failure reached ran
      rw [ran]
      exact .refl reached
  refine ⟨?_, prints.trans further⟩
  cases compared with
  | inl same =>
      cases ran : second machine with
      | mk result reached =>
          rw [ran] at same
          cases result with
          | ok value =>
              rw [Run.bind_of_ok next same, Run.bind_of_ok follow ran]
              exact (later value reached).1
          | error failure =>
              rw [Run.bind_of_error next same, Run.bind_of_error follow ran]
              exact .inl rfl
  | inr cut =>
      obtain ⟨span, overflow⟩ := cut.overflow
      rw [Run.bind_of_error next (Prod.ext overflow rfl)]
      exact .inr ⟨⟨span, rfl⟩, cut.printed.trans further⟩

theorem located {first second : Run Unit} (span : Span) (related : Unlimits first second) :
    Unlimits (Run.located span first) (Run.located span second) := by
  intro machine
  obtain ⟨compared, prints⟩ := related machine
  rw [Run.located_eq, Run.located_eq]
  refine ⟨?_, prints⟩
  cases compared with
  | inl same => exact .inl (by rw [same])
  | inr cut =>
      obtain ⟨own, overflow⟩ := cut.overflow
      exact .inr ⟨⟨some (own.getD span), by rw [overflow]; rfl⟩, cut.printed⟩

theorem within {host : Host} (limit depth : Nat) (related : Unlimits first second) :
    Unlimits (Setting.within ⟨some limit, host⟩ depth first)
      (Setting.within ⟨none, host⟩ depth second) := by
  unfold Setting.within
  dsimp only
  split
  · intro machine
    obtain ⟨-, prints⟩ := related machine
    exact ⟨.inr ⟨⟨none, rfl⟩, prints⟩, prints⟩
  · exact related

end Unlimits

/-- Taking the limit away. -/
def unlimit (host : Host) (limit : Nat) : RunRelation id ⟨some limit, host⟩ ⟨none, host⟩ where
  Holds := Unlimits
  pure value := .refl .refl
  bind := .bind
  fail fault span := by
    cases span <;> exact .refl .refl
  located := .located
  set name value := .refl fun machine => .refl machine
  print text := .refl fun machine => ⟨text, rfl⟩
  lookup name span := .refl fun machine => by
    obtain ⟨made, looked⟩ := Run.lookup_snd name span machine
    rw [looked]
    exact .refl machine
  callHost name identity arguments span := .refl fun machine => by
    rw [Run.callHost_eq]
    exact ⟨_, rfl⟩
  within := .within limit

theorem Program.run_sameOrCut (host : Host) (limit : Nat) (program : Program) (machine : Machine) :
    SameOrCut (program.run ⟨some limit, host⟩ machine) (program.run ⟨none, host⟩ machine) := by
  have related := (unlimit host limit).run program machine
  rw [program.relocate_id] at related
  exact related.1

/-- Two levels below a statement list is one too many here. -/
example : (Program.run ⟨some 1, Host.none⟩
    [.expr (.list []) ⟨0, 2⟩, .expr (.list [.none]) ⟨3, 9⟩] ⟨.empty, "a", []⟩) =
    (.error ⟨.stackOverflow, some ⟨3, 9⟩⟩, ⟨.empty, "a", []⟩) :=
  rfl

end Code

/-- No function of the host fails because of its depth. -/
def Host.Shallow (host : Host) : Prop :=
  ∀ name identity arguments, LiteratePages.Shallow (host name identity arguments).result

theorem templateArguments_shallow (arguments : List Value) :
    Shallow (templateArguments arguments) := by
  unfold templateArguments
  split
  · trivial
  · trivial
  all_goals exact fun same => Fault.noConfusion same

/-- A template in which code goes too deep fails as a template. -/
theorem templateHost_shallow (render : String → Metadata → Rendered) :
    (templateHost render).Shallow := by
  intro name identity arguments
  unfold templateHost
  split
  · have parsed := templateArguments_shallow arguments
    cases given : templateArguments arguments with
    | error fault =>
        rw [given] at parsed
        exact parsed
    | ok pair =>
        obtain ⟨path, data⟩ := pair
        dsimp only
        cases (render path data).1 with
        | ok text => trivial
        | error error => exact fun same => Fault.noConfusion same
  · exact fun same => Fault.noConfusion same

/-- The run does not fail because its code goes too deep. -/
def Run.Shallow {α : Type} (action : Run α) : Prop :=
  ∀ machine, Meets (fun _ => True) (fun failure => failure.fault ≠ .stackOverflow) (action machine).1

namespace Run.Shallow

variable {α β : Type}

theorem bind {first : Run α} {next : α → Run β} (shallow : first.Shallow)
    (later : ∀ value, (next value).Shallow) : (first.bind next).Shallow := by
  intro machine
  have before := shallow machine
  refine Run.bind_elim first next machine ?_ ?_
  · intro value reached _
    exact later value reached
  · intro failure reached ran
    rwa [ran] at before

theorem lift {result : Except Fault α} (shallow : LiteratePages.Shallow result)
    (span : Option Code.Span) : (Run.lift result span).Shallow := by
  intro machine
  cases result with
  | ok value => trivial
  | error fault => exact shallow

theorem located {action : Run α} (span : Code.Span) (shallow : action.Shallow) :
    (Run.located span action).Shallow := by
  intro machine
  have inside := shallow machine
  rw [Run.located_eq]
  cases ran : (action machine).1 with
  | ok value => trivial
  | error failure =>
      rw [ran] at inside
      exact inside

theorem lookup (name : String) (span : Code.Span) : (Run.lookup name span).Shallow := by
  intro machine
  unfold Run.lookup
  split
  · trivial
  · split
    · trivial
    · exact fun same => Fault.noConfusion same

end Run.Shallow

namespace Code

/-- Code whose levels are within the limit does not go too deep. -/
def shallow {host : Host} (quiet : host.Shallow) (limit : Nat) :
    Invariant (fun occurrence => ∀ level, occurrence.level? = some level → level ≤ limit)
      ⟨some limit, host⟩ where
  Keeps := Run.Shallow
  pure _ _ := trivial
  bind := .bind
  fail _ other _ := other
  located := .located
  set _ _ _ _ := trivial
  print _ _ _ := trivial
  lookup name span _ := .lookup name span
  callHost name identity arguments span _ :=
    Run.Shallow.lift (quiet name identity arguments) (some span) _
  within depth allowed inside := by
    have admitted : Setting.Admits ⟨some limit, host⟩ depth := by
      rintro same ⟨⟩
      exact allowed depth rfl
    rw [Setting.within_of_admits admitted]
    exact inside

theorem Program.run_shallow {host : Host} (quiet : host.Shallow) {limit : Nat} {program : Program}
    (levels : ∀ level ∈ program.levels, level ≤ limit) :
    (program.run ⟨some limit, host⟩).Shallow :=
  (shallow quiet limit).run program (List.forall_mem_filterMap.mp levels)

/-- The limit only ever ends a run, and only one of code that goes below it. -/
theorem Program.run_limited (program : Program) (host : Host) (machine : Machine) :
    SameOrCut (program.run ⟨some maxDepth, host⟩ machine) (program.run ⟨none, host⟩ machine) ∧
      (host.Shallow → (∀ level ∈ program.levels, level ≤ maxDepth) → ∀ span,
        (program.run ⟨some maxDepth, host⟩ machine).1 ≠ .error ⟨.stackOverflow, span⟩) := by
  refine ⟨program.run_sameOrCut host maxDepth machine, ?_⟩
  intro quiet levels span overflow
  have shallow := program.run_shallow quiet levels machine
  rw [overflow] at shallow
  exact shallow rfl

theorem Program.run_limited_format_in_loop :
    let program : Program := [.loop "x" (.string "ab") [.expr (.call (.variable "print" ⟨16, 21⟩)
      [.format [.text "<", .code (.variable "x" ⟨26, 27⟩)]] ⟨16, 30⟩) ⟨16, 30⟩] ⟨0, 34⟩]
    let host := templateHost fun path _ => (.ok path, [])
    host.Shallow ∧ program.levels = [0, 1, 1, 2, 3, 3, 4] ∧
      (∀ level ∈ program.levels, level ≤ maxDepth) ∧
      ∀ span, (program.run ⟨some maxDepth, host⟩ ⟨.empty, "", []⟩).1 ≠
        .error ⟨.stackOverflow, span⟩ := by
  have quiet := templateHost_shallow fun path _ => (.ok path, [])
  refine ⟨quiet, rfl, by decide, ?_⟩
  exact (Program.run_limited _ _ _).2 quiet (by decide)

end Code
end LiteratePages
