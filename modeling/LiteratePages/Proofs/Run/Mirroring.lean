import LiteratePages.Proofs.Run.Identities
import LiteratePages.Proofs.Run.Machine
import LiteratePages.Proofs.Run.Simulation

namespace LiteratePages

/-- The names bound here are bound in the other scope, with functions under other identities. A
function that is made next here, up to the one with the identity `stop`, has its counterpart in the
one that is made next there. -/
structure Scope.Mirrors (relabeling : Relabeling) (named : String → Prop) (stop : Nat)
    (scope other : Scope) : Prop where
  bound : ∀ name, named name → other.get? name = (scope.get? name).map (Value.relabel relabeling)
  fresh : ∀ k, scope.made + k < stop → relabeling.apply (scope.made + k) = other.made + k

/-- What was printed and noted is the same. -/
structure Machine.Mirrors (relabeling : Relabeling) (named : String → Prop) (stop : Nat)
    (machine other : Machine) : Prop where
  scope : machine.scope.Mirrors relabeling named stop other.scope
  output : other.output = machine.output
  journal : other.journal = machine.journal

section

variable {relabeling : Relabeling} {named : String → Prop} {stop : Nat} {scope other : Scope}

theorem Scope.Mirrors.set (mirrors : scope.Mirrors relabeling named stop other) (name : String)
    (value : Value) :
    (scope.set name value).Mirrors relabeling named stop
      (other.set name (value.relabel relabeling)) where
  bound asked mentioned := by
    by_cases same : asked = name
    · subst same
      rw [Scope.get?_set_self, Scope.get?_set_self]
      rfl
    · rw [Scope.get?_set_of_ne same, Scope.get?_set_of_ne same]
      exact mirrors.bound asked mentioned
  fresh := mirrors.fresh

theorem Scope.Mirrors.make (mirrors : scope.Mirrors relabeling named stop other) :
    Scope.Mirrors relabeling named stop ⟨scope.bindings, scope.made + 1⟩
      ⟨other.bindings, other.made + 1⟩ where
  bound := mirrors.bound
  fresh k below := by
    have shorter : scope.made + (1 + k) < stop := by
      rwa [← Nat.add_assoc]
    have next := mirrors.fresh (1 + k) shorter
    rwa [← Nat.add_assoc, ← Nat.add_assoc] at next

end

/-- One run has come to what the other one has come to. -/
structure Alike (relabeling : Relabeling) (named : String → Prop) (stop : Nat) {α : Type}
    [Relabels α] (outcome other : Except Failure α × Machine) : Prop where
  result : other.1 = outcome.1.map (Relabels.relabel relabeling)
  machine : outcome.2.Mirrors relabeling named stop other.2

/-- The run unmakes no function and, where it makes none from the one with the identity `stop` on,
the other run does as it does. -/
structure Run.Mirrors (relabeling : Relabeling) (named : String → Prop) (stop : Nat) {α : Type}
    [Relabels α] (action other : Run α) : Prop where
  grows : ∀ machine, machine.scope.made ≤ (action machine).2.scope.made
  alike : ∀ {machine second : Machine}, machine.Mirrors relabeling named stop second →
    (action machine).2.scope.made ≤ stop →
      Alike relabeling named stop (action machine) (other second)

namespace Run.Mirrors

variable {relabeling : Relabeling} {named : String → Prop} {stop : Nat} {α β : Type} [Relabels α]
  [Relabels β]

theorem pure (value : α) :
    Mirrors relabeling named stop (Run.pure value) (Run.pure (Relabels.relabel relabeling value)) :=
  ⟨fun _ => Nat.le_refl _, fun mirrors _ => ⟨rfl, mirrors⟩⟩

theorem fail (fault : Fault) (span : Option Code.Span) :
    Mirrors relabeling named stop (Run.fail fault span : Run α) (Run.fail fault span) :=
  ⟨fun _ => Nat.le_refl _, fun mirrors _ => ⟨rfl, mirrors⟩⟩

theorem bind {first second : Run α} {next follow : α → Run β}
    (before : Mirrors relabeling named stop first second)
    (after : ∀ value, Mirrors relabeling named stop (next value)
      (follow (Relabels.relabel relabeling value))) :
    Mirrors relabeling named stop (first.bind next) (second.bind follow) where
  grows machine := by
    have made := before.grows machine
    refine Run.bind_elim first next machine ?_ ?_
    · intro value reached ran
      rw [ran] at made
      exact Nat.le_trans made ((after value).grows reached)
    · intro failure reached ran
      rwa [ran] at made
  alike := by
    intro machine other mirrors made
    cases ran : first machine with
    | mk result reached =>
        cases result with
        | ok value =>
            rw [Run.bind_of_ok next ran] at made ⊢
            have short : (first machine).2.scope.made ≤ stop := by
              rw [ran]
              exact Nat.le_trans ((after value).grows reached) made
            have alike := before.alike mirrors short
            rw [ran] at alike
            rw [Run.bind_of_ok follow (Prod.ext alike.result rfl)]
            exact (after value).alike alike.machine made
        | error failure =>
            rw [Run.bind_of_error next ran] at made ⊢
            have alike := before.alike mirrors (by rwa [ran])
            rw [ran] at alike
            rw [Run.bind_of_error follow (Prod.ext alike.result rfl)]
            exact ⟨rfl, alike.machine⟩

theorem located {first second : Run Unit} (span : Code.Span)
    (before : Mirrors relabeling named stop first second) :
    Mirrors relabeling named stop (Run.located span first) (Run.located span second) where
  grows machine := by
    rw [Run.located_eq]
    exact before.grows machine
  alike := by
    intro machine other mirrors made
    rw [Run.located_eq] at made ⊢
    rw [Run.located_eq]
    have alike := before.alike mirrors made
    refine ⟨?_, alike.machine⟩
    dsimp only
    rw [alike.result]
    cases (first machine).1 <;> rfl

theorem set (name : String) (value : Value) :
    Mirrors relabeling named stop (Run.set name value)
      (Run.set name (value.relabel relabeling)) where
  grows _ := Nat.le_refl _
  alike mirrors _ := ⟨rfl, mirrors.scope.set name value, mirrors.output, mirrors.journal⟩

theorem print (text : String) :
    Mirrors relabeling named stop (Run.print text) (Run.print text) where
  grows _ := Nat.le_refl _
  alike mirrors _ := ⟨rfl, mirrors.scope, by simp [Run.print, mirrors.output], mirrors.journal⟩

theorem lookup {name : String} (mentioned : named name) (span : Code.Span) :
    Mirrors relabeling named stop (Run.lookup name span) (Run.lookup name span) where
  grows machine := by
    unfold Run.lookup
    split
    · exact Nat.le_refl _
    · split
      · exact Nat.le_succ _
      · exact Nat.le_refl _
  alike := by
    intro machine other mirrors made
    have bound := mirrors.scope.bound name mentioned
    unfold Run.lookup at made ⊢
    rw [bound]
    cases found : machine.scope.get? name with
    | some value => exact ⟨rfl, mirrors⟩
    | none =>
        rw [found] at made
        cases builtin : Builtin.named? name with
        | none => exact ⟨rfl, mirrors⟩
        | some builtin' =>
            rw [builtin] at made
            have next := mirrors.scope.fresh 0 made
            rw [Nat.add_zero, Nat.add_zero] at next
            refine ⟨?_, mirrors.scope.make, mirrors.output, mirrors.journal⟩
            simp [Scope.make, Except.map, Relabels.relabel, Value.relabel, next]

theorem callHost {host : Host} (respects : host.Respects relabeling) (name : String)
    (identity : Nat) (arguments : List Value) (span : Code.Span) :
    Mirrors relabeling named stop (Run.callHost host name identity arguments span)
      (Run.callHost host name (relabeling.apply identity) (relabelItems relabeling arguments)
        span) where
  grows machine := Nat.le_of_eq (by rw [Run.callHost_eq])
  alike := by
    intro machine other mirrors made
    rw [Run.callHost_eq, Run.callHost_eq, respects]
    refine ⟨?_, mirrors.scope, ?_, ?_⟩
    · dsimp only [Reply.relabel]
      cases (host name identity arguments).result <;> rfl
    · exact congrArg (· ++ (host name identity arguments).printed) mirrors.output
    · exact congrArg (· ++ (host name identity arguments).journal) mirrors.journal

theorem within {setting : Code.Setting} {first second : Run α} (depth : Nat)
    (before : Mirrors relabeling named stop first second) :
    Mirrors relabeling named stop (setting.within depth first) (setting.within depth second) := by
  obtain admits | refuses := setting.within_eq_or depth
  · rw [admits, admits]
    exact before
  · rw [refuses, refuses]
    exact .fail _ _

end Run.Mirrors

namespace Code

/-- Code that reads and writes no other names runs alike in both scopes. -/
def mirroring {relabeling : Relabeling} {setting : Setting}
    (respects : setting.host.Respects relabeling) (named : String → Prop) (stop : Nat) :
    Coupling (fun occurrence => ∀ name, occurrence.name? = some name → named name) id relabeling
      setting setting.actions where
  Holds := Run.Mirrors relabeling named stop
  pure := .pure
  bind := .bind
  fail span _ := by
    cases span <;> exact .fail _ _
  located := .located
  set name value _ := .set name value
  print builtin arguments := .print _
  lookup name span mentioned := .lookup (mentioned name rfl) span
  callHost := .callHost respects
  within depth _ := .within depth

theorem Program.run_mirrors {relabeling : Relabeling} {setting : Setting}
    (respects : setting.host.Respects relabeling) {named : String → Prop} {program : Program}
    (names : ∀ name ∈ program.names, named name) (stop : Nat) :
    Run.Mirrors relabeling named stop (program.run setting) (program.run setting) := by
  have mirrors := (mirroring respects named stop).run program (List.forall_mem_filterMap.mp names)
  rwa [program.relocate_id, ← program.run_eq_runIn] at mirrors

end Code
end LiteratePages
