import LiteratePages.Proofs.Run.Relabeling
import LiteratePages.Template.Engine

/-!
Which functions values hold. The identities in a scope are of functions that have been made already,
and a host that can do nothing with a function but hand it on does the same under other identities.
-/
namespace LiteratePages

mutual

/-- The identities of all functions in the value. -/
def Value.identities : Value → List Nat
  | .number _ | .boolean _ | .string _ | .none => []
  | .list items => identitiesOfItems items
  | .map entries => identitiesOfEntries entries
  | .function made => [made.identity]
termination_by structural value => value

def identitiesOfItems : List Value → List Nat
  | [] => []
  | item :: rest => item.identities ++ identitiesOfItems rest
termination_by structural items => items

def identitiesOfEntries : List (String × Value) → List Nat
  | [] => []
  | (_, value) :: rest => value.identities ++ identitiesOfEntries rest
termination_by structural entries => entries

end

section

variable (relabeling : Relabeling)

mutual

/-- A value stays the same if each of its functions does. -/
theorem Value.relabel_eq_self : (value : Value) →
    value.relabel relabeling = value ↔ ∀ i ∈ value.identities, relabeling.apply i = i
  | .number _ | .boolean _ | .string _ | .none => by simp [Value.relabel, Value.identities]
  | .list items => by simp [Value.relabel, Value.identities, relabelItems_eq_self items]
  | .map entries => by simp [Value.relabel, Value.identities, relabelEntries_eq_self entries]
  | .function ⟨callee, identity⟩ => by simp [Value.relabel, Value.identities]
termination_by structural value => value

theorem relabelItems_eq_self : (items : List Value) →
    relabelItems relabeling items = items ↔ ∀ i ∈ identitiesOfItems items, relabeling.apply i = i
  | [] => by simp [relabelItems, identitiesOfItems]
  | item :: rest => by
      simp [relabelItems, identitiesOfItems, item.relabel_eq_self, relabelItems_eq_self rest,
        or_imp, forall_and]
termination_by structural items => items

theorem relabelEntries_eq_self : (entries : List (String × Value)) →
    relabelEntries relabeling entries = entries ↔
      ∀ i ∈ identitiesOfEntries entries, relabeling.apply i = i
  | [] => by simp [relabelEntries, identitiesOfEntries]
  | (key, value) :: rest => by
      simp [relabelEntries, identitiesOfEntries, value.relabel_eq_self,
        relabelEntries_eq_self rest, or_imp, forall_and]
termination_by structural entries => entries

end

end

mutual

/-- There are no functions in JSON. -/
theorem Value.identities_ofJson : (json : Json) → (Value.ofJson json).identities = []
  | .null | .bool _ | .integer _ | .real _ | .string _ => rfl
  | .list items => by rw [Value.ofJson, Value.identities, identitiesOfItems_ofJson items]
  | .object entries => by rw [Value.ofJson, Value.identities, identitiesOfEntries_ofJson entries]
termination_by structural json => json

theorem identitiesOfItems_ofJson : (items : List Json) →
    identitiesOfItems (Value.itemsOfJson items) = []
  | [] => rfl
  | item :: rest => by
      rw [Value.itemsOfJson, identitiesOfItems, Value.identities_ofJson item,
        identitiesOfItems_ofJson rest, List.append_nil]
termination_by structural items => items

theorem identitiesOfEntries_ofJson : (entries : List (String × Json)) →
    identitiesOfEntries (Value.entriesOfJson entries) = []
  | [] => rfl
  | (_, value) :: rest => by
      rw [Value.entriesOfJson, identitiesOfEntries, Value.identities_ofJson value,
        identitiesOfEntries_ofJson rest, List.append_nil]
termination_by structural entries => entries

end

namespace Relabeling

/-- Identities from `low` on are moved up. -/
def shift (low amount : Nat) : Relabeling where
  apply identity := if identity < low then identity else identity + amount
  injective first second same := by
    dsimp only at same
    split at same <;> split at same <;> omega

variable (low amount : Nat)

theorem shift_of_lt {identity : Nat} (old : identity < low) :
    (shift low amount).apply identity = identity :=
  if_pos old

theorem shift_of_le {identity : Nat} (new : low ≤ identity) :
    (shift low amount).apply identity = identity + amount :=
  if_neg (Nat.not_lt.mpr new)

end Relabeling

/-- All functions in the bindings are among those made so far. -/
def Scope.Sound (scope : Scope) : Prop :=
  ∀ name value, scope.get? name = some value → ∀ i ∈ value.identities, i < scope.made

namespace Scope

theorem empty_sound : empty.Sound := nofun

theorem Sound.set {scope : Scope} (sound : scope.Sound) (name : String) {value : Value}
    (known : ∀ i ∈ value.identities, i < scope.made) : (scope.set name value).Sound := by
  intro other held found
  by_cases same : other = name
  · subst same
    rw [get?_set_self] at found
    cases found
    exact known
  · rw [get?_set_of_ne same] at found
    exact sound other held found

/-- The bindings of what more has been made around. -/
theorem Sound.made {scope : Scope} (sound : scope.Sound) {made : Nat} (more : scope.made ≤ made) :
    Sound ⟨scope.bindings, made⟩ :=
  fun name value found i member => Nat.lt_of_lt_of_le (sound name value found i member) more

theorem ofData_sound (data : Metadata) : (ofData data).Sound := by
  intro name value found
  obtain ⟨before, after, bindings, -⟩ := List.lookup_eq_some_iff.mp found
  have member : (name, value) ∈ (ofData data).bindings := by
    rw [bindings]
    exact List.mem_append_right before List.mem_cons_self
  obtain ⟨entry, -, bound⟩ := List.mem_map.mp member
  cases bound
  rw [Value.identities_ofJson]
  exact nofun

theorem Sound.define {scope : Scope} (sound : scope.Sound) (name : String) :
    (scope.define name).Sound := by
  apply (sound.made (Nat.le_succ scope.made)).set
  intro i member
  rw [Value.identities, List.mem_singleton] at member
  rw [member]
  exact Nat.lt_succ_self scope.made

end Scope

theorem expressionScope_sound (data : Metadata) : (expressionScope data).Sound := by
  apply Scope.Sound.define
  split
  · exact Scope.ofData_sound data
  · apply (Scope.ofData_sound data).set
    rw [Value.identities, identitiesOfEntries_ofJson]
    exact nofun

/-- The reply with other identities of functions in what it gives. -/
def Reply.relabel (relabeling : Relabeling) (reply : Reply) : Reply :=
  { reply with result := reply.result.map (Value.relabel relabeling) }

/-- The host does the same under these identities. -/
def Host.Respects (relabeling : Relabeling) (host : Host) : Prop :=
  ∀ name identity arguments,
    host name (relabeling.apply identity) (relabelItems relabeling arguments) =
      (host name identity arguments).relabel relabeling

theorem Host.respects_id (host : Host) : host.Respects .id := by
  intro name identity arguments
  rw [relabelItems_id]
  change host name identity arguments = _
  cases host name identity arguments with
  | mk result printed journal =>
      cases result with
      | ok value =>
          exact congrArg (fun value => Reply.mk (.ok value) printed journal) value.relabel_id.symm
      | error fault => rfl

/-- The host may know the functions before the `known`-th, and takes all others alike. -/
def Host.Blind (known : Nat) (host : Host) : Prop :=
  ∀ relabeling : Relabeling, (∀ i < known, relabeling.apply i = i) → host.Respects relabeling

theorem templateArguments_relabel (relabeling : Relabeling) (arguments : List Value) :
    templateArguments (relabelItems relabeling arguments) = templateArguments arguments := by
  match arguments with
  | [] | [.string _] => rfl
  | [.string _, .map entries] =>
      simp only [relabelItems, Value.relabel, templateArguments, Value.entriesToJson_relabel]
  | [.string _, .number _] | [.string _, .boolean _] | [.string _, .string _]
  | [.string _, .none] | [.string _, .list _] | [.string _, .function _] => rfl
  | .string _ :: second :: third :: others =>
      cases second <;>
        simp only [relabelItems, Value.relabel, templateArguments, List.length_cons,
          length_relabelItems]
  | .number _ :: _ | .boolean _ :: _ | .none :: _ | .list _ :: _ | .map _ :: _
  | .function _ :: _ => rfl

theorem templateHost_blind (render : String → Metadata → Rendered) (known : Nat) :
    (templateHost render).Blind known := by
  intro relabeling _ name identity arguments
  unfold templateHost
  split
  · rw [templateArguments_relabel]
    cases templateArguments arguments with
    | error fault => rfl
    | ok given =>
        dsimp only
        cases (render given.1 given.2).1 <;> rfl
  · rfl

end LiteratePages
