import LiteratePages.Proofs.Run.Capped
import LiteratePages.Proofs.Run.Onlooker
import LiteratePages.Proofs.Run.Sequence

/-!
The size cap over whole runs. An onlooker that takes no notice of values within the cap makes no
difference to code that keeps to the cap, so that no other value ever comes about in it.
-/
namespace LiteratePages.Code

mutual

/-- The literals keep to the cap. There is no format string, and none of the functions is mentioned
that build strings and lists of any length. -/
def Expr.Capped : Expr → Prop
  | .string value => value.utf8ByteSize ≤ maxLength
  | .number _ | .boolean _ | .none => True
  | .format _ => False
  | .list items => items.length ≤ maxLength ∧ CappedAll items
  | .map entries => CappedPairs entries
  | .variable name _ => ∀ builtin, Builtin.named? name = some builtin → builtin.capped = true
  | .call callee arguments _ => callee.Capped ∧ CappedAll arguments
  | .index target position _ => target.Capped ∧ position.Capped
  | .unary _ operand => operand.Capped
  | .binary _ left right => left.Capped ∧ right.Capped
termination_by structural e => e

def CappedAll : List Expr → Prop
  | [] => True
  | e :: rest => e.Capped ∧ CappedAll rest
termination_by structural es => es

def CappedPairs : List (Expr × Expr) → Prop
  | [] => True
  | (key, value) :: rest => key.Capped ∧ value.Capped ∧ CappedPairs rest
termination_by structural entries => entries

end

mutual

def Statement.Capped : Statement → Prop
  | .assign _ value _ | .expr value _ => value.Capped
  | .cond branches otherwise _ =>
      CappedBranches branches ∧ match otherwise with
        | some body => CappedBody body
        | none => True
  | .loop _ source body _ => source.Capped ∧ CappedBody body
termination_by structural statement => statement

def CappedBranches : List (Expr × List Statement) → Prop
  | [] => True
  | (condition, body) :: rest => condition.Capped ∧ CappedBody body ∧ CappedBranches rest
termination_by structural branches => branches

def CappedBody : List Statement → Prop
  | [] => True
  | statement :: rest => statement.Capped ∧ CappedBody rest
termination_by structural statements => statements

end

end LiteratePages.Code

namespace LiteratePages

def Scope.Capped (scope : Scope) : Prop := ∀ entry ∈ scope.bindings, entry.2.Capped

/-- The functions of the host keep to the cap. -/
def Host.Capped (host : Host) : Prop :=
  ∀ name identity arguments, CappedItems arguments →
    Gives Value.Capped (host name identity arguments).result

theorem Scope.capped_set {scope : Scope} {name : String} {value : Value} (capped : scope.Capped)
    (fits : value.Capped) : (scope.set name value).Capped := by
  obtain ⟨bindings, made⟩ := scope
  change ∀ entry ∈ Scope.bind name value bindings, entry.2.Capped
  replace capped : ∀ entry ∈ bindings, entry.2.Capped := capped
  induction bindings with
  | nil =>
      intro entry member
      rw [List.mem_singleton.mp member]
      exact fits
  | cons entry rest ih =>
      obtain ⟨first, later⟩ := List.forall_mem_cons.mp capped
      unfold Scope.bind
      split
      · exact List.forall_mem_cons.mpr ⟨fits, later⟩
      · exact List.forall_mem_cons.mpr ⟨first, ih later⟩

theorem Scope.capped_get? {scope : Scope} {name : String} {value : Value} (capped : scope.Capped)
    (found : scope.get? name = some value) : value.Capped := by
  obtain ⟨bindings, made⟩ := scope
  replace capped : ∀ entry ∈ bindings, entry.2.Capped := capped
  replace found : bindings.lookup name = some value := found
  induction bindings with
  | nil => cases found
  | cons entry rest ih =>
      obtain ⟨first, later⟩ := List.forall_mem_cons.mp capped
      rw [List.lookup_cons] at found
      split at found
      · cases found
        exact first
      · exact ih later found

/-- An onlooker that takes no notice of values within the cap. -/
def Unnoticed (see : Value → Run Value) : Prop :=
  ∀ value : Value, value.Capped → see value = Run.pure value

/-- All around the code keeps to the cap, and the onlooker takes no notice of what does. -/
structure Discreet (see : Value → Run Value) (setting : Code.Setting) : Prop where
  unnoticed : Unnoticed see
  host : setting.host.Capped

/-- From a scope within the cap both do the same and leave such a scope, and something holds of the
value they come to. -/
def Run.Agrees {α : Type} (good : α → Prop) (plain seen : Run α) : Prop :=
  ∀ machine, machine.scope.Capped → seen machine = plain machine ∧
    (plain machine).2.scope.Capped ∧ Gives good (plain machine).1

namespace Run.Agrees

variable {α β : Type} {good : α → Prop} {other : β → Prop} {setting : Code.Setting}

theorem pure {value : α} (holds : good value) : Agrees good (Run.pure value) (Run.pure value) :=
  fun _ capped => ⟨rfl, capped, holds⟩

theorem bind {first second : Run α} {next follow : α → Run β} (agrees : Agrees good first second)
    (later : ∀ value, good value → Agrees other (next value) (follow value)) :
    Agrees other (first.bind next) (second.bind follow) := by
  intro machine capped
  obtain ⟨same, kept, holds⟩ := agrees machine capped
  unfold Run.bind
  rw [same]
  cases ran : first machine with
  | mk result reached =>
      rw [ran] at kept holds
      cases result with
      | ok value => exact later value holds reached kept
      | error failure => exact ⟨rfl, kept, trivial⟩

theorem fail {fault : Fault} {span : Option Code.Span} :
    Agrees good (Run.fail fault span) (Run.fail fault span) :=
  fun _ capped => ⟨rfl, capped, trivial⟩

theorem lift {result : Except Fault α} {span : Option Code.Span} (gives : Gives good result) :
    Agrees good (Run.lift result span) (Run.lift result span) := by
  cases result with
  | ok value => exact pure gives
  | error fault => exact fail

theorem within {first second : Run α} (depth : Nat) (agrees : Agrees good first second) :
    Agrees good (setting.within depth first) (setting.within depth second) := by
  obtain admits | refuses := setting.within_eq_or depth
  · rw [admits, admits]
    exact agrees
  · rw [refuses, refuses]
    exact fail

theorem set {name : String} {value : Value} (fits : value.Capped) :
    Agrees (fun _ => True) (Run.set name value) (Run.set name value) :=
  fun _ capped => ⟨rfl, Scope.capped_set capped fits, trivial⟩

theorem print {text : String} :
    Agrees (fun _ => True) (Run.print text) (Run.print text) :=
  fun _ capped => ⟨rfl, capped, trivial⟩

theorem located {first second : Run Unit} (span : Code.Span)
    (agrees : Agrees (fun _ => True) first second) :
    Agrees (fun _ => True) (Run.located span first) (Run.located span second) := by
  intro machine capped
  obtain ⟨same, kept, _⟩ := agrees machine capped
  unfold Run.located
  rw [same]
  refine ⟨rfl, ?_, gives_any _⟩
  split
  · rename_i ran
    rw [ran] at kept
    exact kept
  · exact kept

theorem lookup {name : String} {span : Code.Span}
    (mention : ∀ builtin, Builtin.named? name = some builtin → builtin.capped = true) :
    Agrees Value.Capped (Run.lookup name span) (Run.lookup name span) := by
  intro machine capped
  refine ⟨rfl, ?_⟩
  unfold Run.lookup
  split
  · rename_i found
    exact ⟨capped, Scope.capped_get? capped found⟩
  · split
    · rename_i builtin named
      exact ⟨capped, mention builtin named⟩
    · exact ⟨capped, trivial⟩

theorem callHost {name : String} {identity : Nat} {arguments : List Value} {span : Code.Span}
    (host : setting.host.Capped) (capped : CappedItems arguments) :
    Agrees Value.Capped (Run.callHost setting.host name identity arguments span)
      (Run.callHost setting.host name identity arguments span) := by
  intro machine kept
  let reply := setting.host name identity arguments
  have gives : Agrees Value.Capped (Run.lift reply.result (some span)) _ :=
    lift (host name identity arguments capped)
  let noted : Machine :=
    ⟨machine.scope, machine.output ++ reply.printed, machine.journal ++ reply.journal⟩
  exact ⟨rfl, (gives noted kept).2⟩

theorem call {callee : Value} {arguments : List Value} {span : Code.Span}
    (host : setting.host.Capped) (function : callee.Capped) (capped : CappedItems arguments) :
    Agrees Value.Capped (Code.call setting callee arguments span)
      (Code.call setting callee arguments span) := by
  cases callee with
  | function made =>
      obtain ⟨target, identity⟩ := made
      cases target with
      | builtin builtin =>
          exact bind print fun _ _ => lift (Builtin.apply_gives function capped)
      | host name => exact callHost host capped
  | _ => exact fail

/-- What is seen is within the cap, and so it makes no difference. -/
theorem seen {see : Value → Run Value} (unnoticed : Unnoticed see) {plain action : Run Value}
    (agrees : Agrees Value.Capped plain action) :
    Agrees Value.Capped plain (action >>= see) := by
  intro machine capped
  obtain ⟨same, kept, holds⟩ := agrees machine capped
  refine ⟨?_, kept, holds⟩
  change Run.bind action see machine = _
  unfold Run.bind
  rw [same]
  cases ran : plain machine with
  | mk result reached =>
      rw [ran] at holds
      cases result with
      | ok value =>
          dsimp only
          rw [unnoticed value holds]
          rfl
      | error failure => rfl

theorem iterate {name : String} {body action : Run Unit}
    (agrees : Agrees (fun _ => True) body action) {items : List Value}
    (capped : CappedItems items) :
    Agrees (fun _ => True) (Code.iterate name body items) (Code.iterate name action items) := by
  induction items with
  | nil => exact pure trivial
  | cons item rest ih =>
      rw [Code.iterate, Code.iterate]
      refine bind (set capped.1) fun _ _ => ?_
      exact bind agrees fun _ _ => ih capped.2

variable {see : Value → Run Value}

mutual

theorem eval (discreet : Discreet see setting) (depth : Nat) :
    (e : Code.Expr) → e.Capped →
      Agrees Value.Capped (e.eval setting depth) (e.evalSeen see setting depth)
  | .string _, fits => seen discreet.unnoticed (within depth (pure fits))
  | .number _, _ | .boolean _, _ | .none, _ =>
      seen discreet.unnoticed (within depth (pure trivial))
  | .list items, ⟨short, capped⟩ => by
      apply seen discreet.unnoticed
      apply within depth
      exact bind (evalAll discreet (depth + 1) items capped) fun values ⟨length, fits⟩ =>
        pure ⟨length ▸ short, fits⟩
  | .map entries, capped => by
      apply seen discreet.unnoticed
      apply within depth
      apply bind (evalEntries discreet (depth + 1) [] entries capped trivial)
      intro _ fits
      exact pure fits
  | .variable name span, mention => seen discreet.unnoticed (within depth (lookup mention))
  | .call callee arguments span, ⟨function, others⟩ => by
      apply seen discreet.unnoticed
      apply within depth
      apply bind (eval discreet (depth + 1) callee function)
      intro called fits
      apply bind (evalAll discreet (depth + 1) arguments others)
      intro values ⟨_, capped⟩
      exact call discreet.host fits capped
  | .index target position span, ⟨whole, place⟩ => by
      apply seen discreet.unnoticed
      apply within depth
      apply bind (eval discreet (depth + 1) target whole)
      intro value fits
      apply bind (eval discreet (depth + 1) position place)
      intro index _
      exact lift (Value.atIndex_gives fits)
  | .unary op operand, capped => by
      apply seen discreet.unnoticed
      apply within depth
      apply bind (eval discreet (depth + 1) operand capped)
      intro value _
      exact lift (Value.unary_gives op value)
  | .binary op left right, ⟨first, second⟩ => by
      have other := eval discreet (depth + 1) right second
      apply seen discreet.unnoticed
      apply within depth
      apply bind (eval discreet (depth + 1) left first)
      intro value fits
      cases op with
      | and =>
          cases value.truthy with
          | false => exact pure fits
          | true => exact other
      | or =>
          cases value.truthy with
          | false => exact other
          | true => exact pure fits
      | _ => exact bind other fun _ more => lift (Value.binary_gives _ fits more)
termination_by structural e => e

theorem evalAll (discreet : Discreet see setting) (depth : Nat) :
    (es : List Code.Expr) → Code.CappedAll es →
      Agrees (fun values => values.length = es.length ∧ CappedItems values)
        (Code.evalAll setting depth es) (Code.evalAllSeen see setting depth es)
  | [], _ => pure ⟨rfl, trivial⟩
  | e :: rest, ⟨first, later⟩ => by
      apply bind (eval discreet depth e first)
      intro value fits
      apply bind (evalAll discreet depth rest later)
      intro values ⟨length, capped⟩
      exact pure ⟨congrArg Nat.succ length, fits, capped⟩
termination_by structural es => es

theorem evalEntries (discreet : Discreet see setting) (depth : Nat) (before : Entries Value) :
    (entries : List (Code.Expr × Code.Expr)) → Code.CappedPairs entries → CappedEntries before →
      Agrees CappedEntries (Code.evalEntries setting depth before entries)
        (Code.evalEntriesSeen see setting depth before entries)
  | [], _, capped => pure capped
  | (key, value) :: rest, ⟨first, second, later⟩, capped => by
      apply bind (eval discreet depth key first)
      intro found fits
      cases found with
      | string name =>
          apply bind (eval discreet depth value second)
          intro item held
          exact evalEntries discreet depth (before.insert name item) rest later
            (Entries.capped_insert capped fits held)
      | _ => exact fail
termination_by structural entries => entries

end

mutual

theorem exec (discreet : Discreet see setting) (depth : Nat) :
    (statement : Code.Statement) → statement.Capped →
      Agrees (fun _ => True) (statement.exec setting depth) (statement.execSeen see setting depth)
  | .assign name value _, capped =>
      bind (eval discreet (depth + 1) value capped) fun _ fits => set fits
  | .expr value _, capped =>
      bind (eval discreet (depth + 1) value capped) fun _ _ => pure trivial
  | .cond branches none _, ⟨capped, _⟩ => execBranches discreet depth (pure trivial) branches capped
  | .cond branches (some body) _, ⟨capped, otherwise⟩ =>
      execBranches discreet depth
        (within (depth + 1) (execAll discreet (depth + 1) body otherwise)) branches capped
  | .loop name source body _, ⟨items, capped⟩ => by
      have inner := execAll discreet (depth + 1) body capped
      apply bind (eval discreet (depth + 1) source items)
      intro value fits
      apply bind (lift (Value.iterate_gives fits))
      intro values short
      exact iterate (within (depth + 1) inner) short
termination_by structural statement => statement

theorem execBranches (discreet : Discreet see setting) (depth : Nat) {otherwise other : Run Unit}
    (agrees : Agrees (fun _ => True) otherwise other) :
    (branches : List (Code.Expr × List Code.Statement)) → Code.CappedBranches branches →
      Agrees (fun _ => True) (Code.execBranches setting depth branches otherwise)
        (Code.execBranchesSeen see setting depth branches other)
  | [], _ => agrees
  | (condition, body) :: rest, ⟨head, capped, later⟩ => by
      have inner := execAll discreet (depth + 1) body capped
      have others := execBranches discreet depth agrees rest later
      apply bind (eval discreet (depth + 1) condition head)
      intro value _
      cases value.truthy with
      | true => exact within (depth + 1) inner
      | false => exact others
termination_by structural branches => branches

theorem execAll (discreet : Discreet see setting) (depth : Nat) :
    (statements : List Code.Statement) → Code.CappedBody statements →
      Agrees (fun _ => True) (Code.execAll setting depth statements)
        (Code.execAllSeen see setting depth statements)
  | [], _ => pure trivial
  | statement :: rest, ⟨first, later⟩ =>
      bind (located statement.span (exec discreet depth statement first)) fun _ _ =>
        execAll discreet depth rest later
termination_by structural statements => statements

end

end Run.Agrees

/-- Code whose literals keep to the cap, and that mentions neither a format string nor a function
that builds texts and lists of any length, comes to no value beyond the cap: an onlooker that does
anything at all with such a value, and nothing with the others, makes no difference. What would be
longer is refused. -/
theorem run_keeps_to_cap {setting : Code.Setting} {program : Code.Program} {machine : Machine}
    (capped : Code.CappedBody program) (host : setting.host.Capped)
    (scope : machine.scope.Capped) :
    (∀ see, Unnoticed see → program.runSeen see setting machine = program.run setting machine) ∧
      (program.run setting machine).2.scope.Capped ∧
      (∀ a b : String, maxLength < a.utf8ByteSize + b.utf8ByteSize →
        Value.add (.string a) (.string b) = .error (.tooLarge .concatenatedString)) ∧
      (∀ a b : List Value, maxLength < a.length + b.length →
        Value.add (.list a) (.list b) = .error (.tooLarge .concatenatedList)) ∧
      (∀ text count, 0 < count →
        maxLength < (Value.copies text (Number.toUnsigned64 count)).utf8ByteSize →
          Value.repeated text count = .error (.tooLarge .repeated)) ∧
      ∀ first stop, maxLength < Builtin.span first stop →
        Builtin.rangeOf first stop = .error (.tooLarge .range) := by
  have agrees : ∀ {see}, Unnoticed see →
      Run.Agrees (fun _ => True) (program.run setting) (program.runSeen see setting) :=
    fun unnoticed => .within 0 (.execAll ⟨unnoticed, host⟩ 0 program capped)
  refine ⟨fun see unnoticed => (agrees unnoticed machine scope).1, ?_,
    fun _ _ => Value.add_strings_of_lt, fun _ _ => Value.add_lists_of_lt,
    fun _ _ => Value.repeated_of_lt, fun _ _ => Builtin.rangeOf_of_lt⟩
  have plain : Unnoticed Run.pure := fun _ _ => rfl
  exact (agrees plain machine scope).2.1

/-- An onlooker that ends a run at the first text beyond the cap. -/
def refuseLong : Value → Run Value
  | .string text =>
      if text.utf8ByteSize ≤ maxLength then pure (.string text)
      else Run.fail (.tooLarge .concatenatedString) none
  | value => pure value

theorem unnoticed_refuseLong : Unnoticed refuseLong := by
  intro value capped
  cases value with
  | string text => exact if_pos capped
  | _ => rfl

/-- Code that assigns a text, joined with another. -/
def joining (name source suffix : String) (place span : Code.Span) : Code.Statement :=
  .assign name (.binary .add (.variable source place) (.string suffix)) span

section

variable {name source text suffix : String} {place span : Code.Span} {machine : Machine}

theorem eval_joining (suffix : String) (place : Code.Span)
    (bound : machine.scope.get? source = some (.string text)) :
    Code.Expr.eval ⟨some maxDepth, Host.none⟩ 1
        (.binary .add (.variable source place) (.string suffix)) machine =
      Run.lift (Value.add (.string text) (.string suffix)) none machine := by
  have found : Run.lookup source place machine = (.ok (.string text), machine) := by
    simp only [Run.lookup, bound]
  exact Run.bind_of_ok _ found

theorem exec_joining_of_le (bound : machine.scope.get? source = some (.string text))
    (fits : text.utf8ByteSize + suffix.utf8ByteSize ≤ maxLength) :
    Code.Statement.exec ⟨some maxDepth, Host.none⟩ 0
        (joining name source suffix place span) machine =
      (.ok (), { machine with scope := machine.scope.set name (.string (text ++ suffix)) }) := by
  have joined := eval_joining suffix place bound
  rw [Value.add_strings_of_le fits] at joined
  exact Run.bind_of_ok (Run.set name) joined

theorem exec_joining_of_lt (bound : machine.scope.get? source = some (.string text))
    (long : maxLength < text.utf8ByteSize + suffix.utf8ByteSize) :
    Code.Statement.exec ⟨some maxDepth, Host.none⟩ 0
        (joining name source suffix place span) machine =
      (.error ⟨.tooLarge .concatenatedString, none⟩, machine) := by
  have refused := eval_joining suffix place bound
  rw [Value.add_strings_of_lt long] at refused
  exact Run.bind_of_error (Run.set name) refused

end

/-- The code `x = s + ""` and, on the next line, `y = x + "a"`. -/
def joinings : Code.Program :=
  [joining "x" "s" "" ⟨4, 5⟩ ⟨0, 10⟩, joining "y" "x" "a" ⟨15, 16⟩ ⟨11, 22⟩]

theorem run_joinings {text : String} (size : text.utf8ByteSize = maxLength) :
    joinings.run ⟨some maxDepth, Host.none⟩ ⟨⟨[("s", .string text)], 0⟩, "", []⟩ =
      (.error ⟨.tooLarge .concatenatedString, some ⟨11, 22⟩⟩,
        ⟨⟨[("s", .string text), ("x", .string text)], 0⟩, "", []⟩) := by
  have fits : text.utf8ByteSize + "".utf8ByteSize ≤ maxLength := Nat.le_of_eq size
  have long : maxLength < text.utf8ByteSize + "a".utf8ByteSize := by
    rw [size]
    exact Nat.lt_succ_self maxLength
  have first : Run.located ⟨0, 10⟩ (Code.Statement.exec ⟨some maxDepth, Host.none⟩ 0
      (joining "x" "s" "" ⟨4, 5⟩ ⟨0, 10⟩)) ⟨⟨[("s", .string text)], 0⟩, "", []⟩ =
        (.ok (), ⟨⟨[("s", .string text), ("x", .string text)], 0⟩, "", []⟩) := by
    rw [Run.located_eq, exec_joining_of_le rfl fits, String.append_empty]
    rfl
  have second : Run.located ⟨11, 22⟩ (Code.Statement.exec ⟨some maxDepth, Host.none⟩ 0
      (joining "y" "x" "a" ⟨15, 16⟩ ⟨11, 22⟩))
        ⟨⟨[("s", .string text), ("x", .string text)], 0⟩, "", []⟩ =
          (.error ⟨.tooLarge .concatenatedString, some ⟨11, 22⟩⟩,
            ⟨⟨[("s", .string text), ("x", .string text)], 0⟩, "", []⟩) := by
    rw [Run.located_eq, exec_joining_of_lt rfl long]
    rfl
  exact (Run.bind_of_ok _ first).trans (Run.bind_of_error _ second)

theorem utf8ByteSize_copies_maxLength :
    (Value.copies "a" maxLength).utf8ByteSize = maxLength := by
  rw [Value.utf8ByteSize_copies]
  exact Nat.one_mul maxLength

/-- A text that just meets the cap is joined with nothing; with one more byte it is refused. -/
theorem run_keeps_to_cap_concatenation :
    ∃ text : String, text.utf8ByteSize = maxLength ∧
      joinings.runSeen refuseLong ⟨some maxDepth, Host.none⟩ ⟨⟨[("s", .string text)], 0⟩, "", []⟩ =
        joinings.run ⟨some maxDepth, Host.none⟩ ⟨⟨[("s", .string text)], 0⟩, "", []⟩ ∧
      joinings.run ⟨some maxDepth, Host.none⟩ ⟨⟨[("s", .string text)], 0⟩, "", []⟩ =
        (.error ⟨.tooLarge .concatenatedString, some ⟨11, 22⟩⟩,
          ⟨⟨[("s", .string text), ("x", .string text)], 0⟩, "", []⟩) := by
  have none : 0 ≤ maxLength := Nat.zero_le _
  have one : 1 ≤ maxLength := by decide
  have capped : Code.CappedBody joinings := ⟨⟨nofun, none⟩, ⟨nofun, one⟩, trivial⟩
  have host : Host.none.Capped := fun _ _ _ _ => trivial
  have scope {text : String} (size : text.utf8ByteSize = maxLength) :
      Scope.Capped ⟨[("s", .string text)], 0⟩ :=
    fun _ member => List.mem_singleton.mp member ▸ Nat.le_of_eq size
  have met := utf8ByteSize_copies_maxLength
  exact ⟨_, met, (run_keeps_to_cap capped host (scope met)).1 refuseLong unnoticed_refuseLong,
    run_joinings met⟩

/-- Texts that are joined in a list may come out beyond the cap. -/
theorem interpret_join_beyond_cap :
    ∃ text joined : String, (Value.string text).Capped ∧ maxLength < joined.utf8ByteSize ∧
      Code.Program.parse "x = join([s, s])" =
        .ok [.assign "x" (.call (.variable "join" ⟨4, 8⟩)
          [.list [.variable "s" ⟨10, 11⟩, .variable "s" ⟨13, 14⟩]] ⟨4, 16⟩) ⟨0, 16⟩] ∧
      interpret Host.none "x = join([s, s])" ⟨[("s", .string text)], 0⟩ =
        ⟨.ok (), ⟨[("s", .string text), ("x", .string joined)], 1⟩, "", []⟩ := by
  have parsed : Code.Program.parse "x = join([s, s])" =
      .ok [.assign "x" (.call (.variable "join" ⟨4, 8⟩)
        [.list [.variable "s" ⟨10, 11⟩, .variable "s" ⟨13, 14⟩]] ⟨4, 16⟩) ⟨0, 16⟩] := rfl
  have ran : ∀ text : String, interpret Host.none "x = join([s, s])" ⟨[("s", .string text)], 0⟩ =
      ⟨.ok (), ⟨[("s", .string text), ("x", .string (text ++ "" ++ text))], 1⟩, "", []⟩ := by
    intro text
    rw [interpret_eq_ofRun parsed]
    rfl
  have size := utf8ByteSize_copies_maxLength
  refine ⟨Value.copies "a" maxLength, _, Nat.le_of_eq size, ?_, parsed, ran _⟩
  have some : 0 < maxLength := by decide
  simp only [String.utf8ByteSize_append, size]
  omega

end LiteratePages
