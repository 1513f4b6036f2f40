import LiteratePages.Proofs.Run.Mirroring
import LiteratePages.Proofs.Run.Sequence

namespace LiteratePages

namespace Code

/-- The variables and the targets in code, if it parses. -/
def mentioned (code : String) : List String :=
  match Program.parse code with
  | .ok program => program.names
  | .error _ => []

end Code

/-- Both runs of a piece of code end, print and note the same, and leave the one scope as the
other. -/
structure Execution.Mirrors (relabeling : Relabeling) (named : String → Prop) (stop : Nat)
    (execution other : Execution) : Prop where
  result : other.result = execution.result
  scope : execution.scope.Mirrors relabeling named stop other.scope
  output : other.output = execution.output
  journal : other.journal = execution.journal

section

variable {host : Host} {code : String}

theorem interpret_made_le (host : Host) (code : String) (scope : Scope) :
    scope.made ≤ (interpret host code scope).scope.made := by
  cases parsed : Code.Program.parse code with
  | error error => exact Nat.le_of_eq (by rw [interpret_of_error parsed])
  | ok program =>
      rw [interpret_eq_ofRun parsed]
      have respects : (Code.Setting.mk (some maxDepth) host).host.Respects .id := host.respects_id
      exact (Code.Program.run_mirrors respects (fun _ _ => trivial) 0).grows ⟨scope, "", []⟩

theorem interpret_mirrors {relabeling : Relabeling} {named : String → Prop} {stop : Nat}
    {first second : Scope} (respects : host.Respects relabeling)
    (names : ∀ name ∈ Code.mentioned code, named name)
    (mirrors : first.Mirrors relabeling named stop second)
    (made : (interpret host code first).scope.made ≤ stop) :
    (interpret host code first).Mirrors relabeling named stop (interpret host code second) := by
  unfold Code.mentioned at names
  cases parsed : Code.Program.parse code with
  | error error =>
      rw [interpret_of_error parsed, interpret_of_error parsed]
      exact ⟨rfl, mirrors, rfl, rfl⟩
  | ok program =>
      rw [parsed] at names
      rw [interpret_eq_ofRun parsed] at made ⊢
      rw [interpret_eq_ofRun parsed]
      have start : Machine.Mirrors relabeling named stop ⟨first, "", []⟩ ⟨second, "", []⟩ :=
        ⟨mirrors, rfl, rfl⟩
      have alike := (Code.Program.run_mirrors respects names stop).alike start made
      refine ⟨?_, alike.machine.scope, alike.machine.output, alike.machine.journal⟩
      change Except.mapError ExecutionError.runtime _ = Except.mapError ExecutionError.runtime _
      rw [alike.result]
      cases (program.run ⟨some maxDepth, host⟩ ⟨first, "", []⟩).1 <;> rfl

theorem map_relabel_id (held : Option Value) : held.map (Value.relabel .id) = held := by
  cases held with
  | none => rfl
  | some value => exact congrArg some value.relabel_id

theorem Scope.Sound.map_relabel {scope : Scope} (sound : scope.Sound) {relabeling : Relabeling}
    (fixed : ∀ i < scope.made, relabeling.apply i = i) (name : String) :
    (scope.get? name).map (Value.relabel relabeling) = scope.get? name := by
  cases found : scope.get? name with
  | none => rfl
  | some value =>
      refine congrArg some ?_
      rw [value.relabel_eq_self]
      exact fun i member => fixed i (sound name value found i member)

/-- Running code in a sound scope leaves a sound one. -/
theorem interpret_sound {scope : Scope} (sound : scope.Sound) (blind : host.Blind scope.made) :
    (interpret host code scope).scope.Sound := by
  have made := interpret_made_le host code scope
  -- What moves only the identities that are not given in this run changes nothing in the scope
  -- that it starts from, hence nothing in the one that it leaves.
  let above : Relabeling := .shift (interpret host code scope).scope.made 1
  have below (i : Nat) (known : i < (interpret host code scope).scope.made) : above.apply i = i :=
    Relabeling.shift_of_lt _ _ known
  have old (i : Nat) (known : i < scope.made) : above.apply i = i :=
    below i (Nat.lt_of_lt_of_le known made)
  have start : scope.Mirrors above (fun _ => True) (interpret host code scope).scope.made scope :=
    { bound := fun name _ => (sound.map_relabel old name).symm
      fresh := fun k known => below _ known }
  have mirrors :=
    interpret_mirrors (blind above old) (fun _ _ => trivial) start (Nat.le_refl _)
  intro name value found i member
  have same := mirrors.scope.bound name trivial
  rw [found, Option.map_some, Option.some.injEq] at same
  have fixed := (value.relabel_eq_self above).mp same.symm i member
  refine Nat.lt_of_not_le fun late => ?_
  rw [Relabeling.shift_of_le _ _ late] at fixed
  omega

/-- Of the functions only those made from the `known`-th on may have other identities in one scope
than in the other. -/
def Scope.Agrees (known : Nat) (names : List String) (first second : Scope) : Prop :=
  ∃ left right : Relabeling, (∀ i < known, left.apply i = i ∧ right.apply i = i) ∧
    ∀ name ∈ names,
      (first.get? name).map (Value.relabel left) = (second.get? name).map (Value.relabel right)

theorem Scope.Agrees.symm {known : Nat} {names : List String} {first second : Scope}
    (agrees : first.Agrees known names second) : second.Agrees known names first := by
  obtain ⟨left, right, fixed, bound⟩ := agrees
  exact ⟨right, left, fun i old => (fixed i old).symm, fun name member => (bound name member).symm⟩

/-- Both runs of a piece of code end, print and note the same, and the scopes that they leave agree
on the names in the code. -/
structure Execution.Agrees (known : Nat) (names : List String) (first second : Execution) :
    Prop where
  result : first.result = second.result
  output : first.output = second.output
  journal : first.journal = second.journal
  scope : first.scope.Agrees known names second.scope

theorem Execution.Agrees.symm {known : Nat} {names : List String} {first second : Execution}
    (agrees : first.Agrees known names second) : second.Agrees known names first :=
  ⟨agrees.result.symm, agrees.output.symm, agrees.journal.symm, agrees.scope.symm⟩

/-- Where more functions have been made before, those that the code makes have later identities. -/
theorem interpret_agrees_of_le {first second : Scope} (more : first.made ≤ second.made)
    (sound : first.Sound) (blind : host.Blind first.made)
    (agree : ∀ name ∈ Code.mentioned code, first.get? name = second.get? name) :
    (interpret host code first).Agrees first.made (Code.mentioned code)
      (interpret host code second) := by
  let later : Relabeling := .shift first.made (second.made - first.made)
  have old (i : Nat) (known : i < first.made) : later.apply i = i :=
    Relabeling.shift_of_lt _ _ known
  have start : first.Mirrors later (· ∈ Code.mentioned code)
      (interpret host code first).scope.made second :=
    { bound := by
        intro name member
        rw [sound.map_relabel old, agree name member]
      fresh := by
        intro k _
        rw [Relabeling.shift_of_le _ _ (Nat.le_add_right _ k)]
        omega }
  have mirrors :=
    interpret_mirrors (blind later old) (fun _ member => member) start (Nat.le_refl _)
  refine ⟨mirrors.result.symm, mirrors.output.symm, mirrors.journal.symm, later, .id,
    fun i known => ⟨old i known, rfl⟩, fun name member => ?_⟩
  rw [mirrors.scope.bound name member, map_relabel_id]

/-- With as many functions made before, those that the code makes have the same identities. -/
theorem interpret_agrees_of_eq (host : Host) {first second : Scope} (same : first.made = second.made)
    (agree : ∀ name ∈ Code.mentioned code, first.get? name = second.get? name) :
    (interpret host code first).Agrees first.made (Code.mentioned code)
        (interpret host code second) ∧
      ∀ name ∈ Code.mentioned code, (interpret host code first).scope.get? name =
        (interpret host code second).scope.get? name := by
  have start : first.Mirrors .id (· ∈ Code.mentioned code)
      (interpret host code first).scope.made second :=
    { bound := by
        intro name member
        rw [map_relabel_id, agree name member]
      fresh := by
        intro k _
        rw [same]
        rfl }
  have mirrors :=
    interpret_mirrors host.respects_id (fun _ member => member) start (Nat.le_refl _)
  have bound (name : String) (member : name ∈ Code.mentioned code) :
      (interpret host code first).scope.get? name =
        (interpret host code second).scope.get? name := by
    rw [mirrors.scope.bound name member, map_relabel_id]
  refine ⟨⟨mirrors.result.symm, mirrors.output.symm, mirrors.journal.symm, .id, .id,
    fun _ _ => ⟨rfl, rfl⟩, fun name member => ?_⟩, bound⟩
  rw [bound name member]

/-- Code runs alike in two scopes in which the names in it have the same values, or none. Where as
many functions have been made before, the scopes that are left have the same values too; otherwise
the functions that the run made have other identities. -/
theorem interpret_noninterference {first second : Scope}
    (agree : ∀ name ∈ Code.mentioned code, first.get? name = second.get? name)
    (made : first.made = second.made ∨
      first.Sound ∧ second.Sound ∧ host.Blind (min first.made second.made)) :
    (interpret host code first).Agrees (min first.made second.made) (Code.mentioned code)
        (interpret host code second) ∧
      (first.made = second.made → ∀ name ∈ Code.mentioned code,
        (interpret host code first).scope.get? name =
          (interpret host code second).scope.get? name) := by
  obtain same | ⟨sound, otherSound, blind⟩ := made
  · obtain ⟨agrees, bound⟩ := interpret_agrees_of_eq host same agree
    rw [← same, Nat.min_self]
    exact ⟨agrees, fun _ => bound⟩
  · refine ⟨?_, fun same => (interpret_agrees_of_eq host same agree).2⟩
    cases Nat.le_total first.made second.made with
    | inl more =>
        rw [Nat.min_eq_left more] at blind ⊢
        exact interpret_agrees_of_le more sound blind agree
    | inr more =>
        rw [Nat.min_eq_right more] at blind ⊢
        have agreed := fun name member => (agree name member).symm
        exact (interpret_agrees_of_le more otherSound blind agreed).symm

end

/-- A function has been made for one of the scopes before. -/
theorem interpret_noninterference_after_function :
    let host := templateHost fun path _ => (.ok path, [])
    let first := (Scope.empty.set "x" (.string "a")).set "y" .none
    let second := (Scope.empty.define "f").set "x" (.string "a")
    (∀ name ∈ Code.mentioned "g = str; print(x, g == str)",
        first.get? name = second.get? name) ∧
      first.Sound ∧ second.Sound ∧ host.Blind (min first.made second.made) ∧
      (interpret host "g = str; print(x, g == str)" first).Agrees 0
        ["g", "str", "print", "x", "g", "str"]
        (interpret host "g = str; print(x, g == str)" second) := by
  intro host first second
  have parsed : Code.Program.parse "g = str; print(x, g == str)" =
      .ok [.assign "g" (.variable "str" ⟨4, 7⟩) ⟨0, 7⟩,
        .expr (.call (.variable "print" ⟨9, 14⟩) [.variable "x" ⟨15, 16⟩,
          .binary .equal (.variable "g" ⟨18, 19⟩) (.variable "str" ⟨23, 26⟩)] ⟨9, 27⟩) ⟨9, 27⟩] :=
    rfl
  have mentioned : Code.mentioned "g = str; print(x, g == str)" =
      ["g", "str", "print", "x", "g", "str"] := by
    rw [Code.mentioned, parsed]
    rfl
  have agree : ∀ name ∈ Code.mentioned "g = str; print(x, g == str)",
      first.get? name = second.get? name := by
    rw [mentioned]
    simp only [List.forall_mem_cons]
    exact ⟨rfl, rfl, rfl, rfl, rfl, rfl, fun _ member => absurd member List.not_mem_nil⟩
  have sound : first.Sound := by
    apply (Scope.empty_sound.set "x" _).set "y" <;> simp [Value.identities]
  have otherSound : second.Sound := by
    apply (Scope.empty_sound.define "f").set "x"
    simp [Value.identities]
  have blind : host.Blind (min first.made second.made) := templateHost_blind _ _
  have agrees := (interpret_noninterference agree (.inr ⟨sound, otherSound, blind⟩)).1
  rw [mentioned] at agrees
  exact ⟨agree, sound, otherSound, blind, agrees⟩

end LiteratePages
