import LiteratePages.Proofs.Run.Simulation
import LiteratePages.Run.Execution

/-!
Code that runs beside a counter of the templates that are open. Host functions may read the counter
and change it, and every event is seen with the counter as it is then. Where the functions of a host
put the counter back, code runs as it would without one.
-/
namespace LiteratePages

/-- An event, and the counter right after it. -/
structure Moment where
  event : Event
  counter : Nat

/-- From a counter to a result, the moments on the way and the counter that is left. -/
def Counting (α : Type) : Type := Nat → α × List Moment × Nat

namespace Counting

variable {α β : Type}

def pure (value : α) : Counting α := fun counter => (value, [], counter)

def bind (first : Counting α) (next : α → Counting β) : Counting β := fun counter =>
  let (value, moments, counter) := first counter
  let (result, more, counter) := next value counter
  (result, moments ++ more, counter)

instance : Monad Counting where
  pure := pure
  bind := bind

def counter : Counting Nat := fun counter => (counter, [], counter)

def setCounter (value : Nat) : Counting Unit := fun _ => ((), [], value)

def note (event : Event) : Counting Unit := fun counter => ((), [⟨event, counter⟩], counter)

@[simp] theorem bind_apply (first : Counting α) (next : α → Counting β) (counter : Nat) :
    (first >>= next) counter =
      ((next (first counter).1 (first counter).2.2).1,
        (first counter).2.1 ++ (next (first counter).1 (first counter).2.2).2.1,
        (next (first counter).1 (first counter).2.2).2.2) := rfl

@[simp] theorem pure_apply (value : α) (counter : Nat) :
    (Pure.pure value : Counting α) counter = (value, [], counter) := rfl

@[simp] theorem counter_apply (count : Nat) : counter count = (count, [], count) := rfl

@[simp] theorem setCounter_apply (value count : Nat) : setCounter value count = ((), [], value) :=
  rfl

@[simp] theorem note_apply (event : Event) (count : Nat) :
    note event count = ((), [⟨event, count⟩], count) := rfl

end Counting

/-- The moments of code and of templates that it renders, from one counter and back to it. A
template is entered and read where fewer than `bound` are open, and refused where that many are. -/
inductive Trace (bound : Nat) : Nat → List Moment → Prop where
  | done (count : Nat) : Trace bound count []
  | ran {count : Nat} {rest : List Moment} (code : String) (later : Trace bound count rest) :
      Trace bound count (⟨.ran code, count⟩ :: rest)
  | refused {count : Nat} {rest : List Moment} (path : String) (full : bound ≤ count)
      (later : Trace bound count rest) : Trace bound count (⟨.refused path, count⟩ :: rest)
  | nested {count : Nat} {inside rest : List Moment} (path : String) (room : count < bound)
      (inner : Trace bound (count + 1) inside) (later : Trace bound count rest) :
      Trace bound count (⟨.entered path, count + 1⟩ :: ⟨.read path, count + 1⟩ ::
        inside ++ ⟨.left path, count⟩ :: rest)

theorem Trace.append {bound count : Nat} {moments others : List Moment}
    (first : Trace bound count moments) (second : Trace bound count others) :
    Trace bound count (moments ++ others) := by
  induction first with
  | done count => exact second
  | ran code _ ih => exact .ran code (ih second)
  | refused path full _ ih => exact .refused path full (ih second)
  | nested path room inner _ _ ih =>
      have whole := Trace.nested path room inner (ih second)
      simpa using whole

/-- From the counter `count` the computation comes to `value` and leaves the counter as it was. The
events on the way are those of `journal`. -/
def Follows (bound count : Nat) {α : Type} (value : α) (journal : Journal)
    (counting : Counting α) : Prop :=
  ∃ moments, counting count = (value, moments, count) ∧
    moments.map Moment.event = journal ∧ Trace bound count moments

section

variable {bound count : Nat} {α β : Type}

theorem follows_pure (value : α) : Follows bound count value [] (pure value) :=
  ⟨[], rfl, rfl, .done count⟩

theorem follows_ran (code : String) :
    Follows bound count () [.ran code] (Counting.note (.ran code)) :=
  ⟨[⟨.ran code, count⟩], rfl, rfl, .ran code (.done count)⟩

theorem Follows.bind {value : α} {result : β} {journal more : Journal} {first : Counting α}
    {next : α → Counting β} (before : Follows bound count value journal first)
    (after : Follows bound count result more (next value)) :
    Follows bound count result (journal ++ more) (first >>= next) := by
  obtain ⟨moments, ran, events, trace⟩ := before
  obtain ⟨others, ranOn, moreEvents, further⟩ := after
  refine ⟨moments ++ others, ?_, ?_, trace.append further⟩
  · rw [Counting.bind_apply, ran, ranOn]
  · rw [List.map_append, events, moreEvents]

theorem Follows.quietly {value : α} {result : β} {journal : Journal} {first : Counting α}
    {next : α → Counting β} (before : Follows bound count value journal first)
    (after : Follows bound count result [] (next value)) :
    Follows bound count result journal (first >>= next) := by
  have whole := before.bind after
  rwa [List.append_nil] at whole

theorem Follows.map {value : α} {journal : Journal} {first : Counting α}
    (before : Follows bound count value journal first) (result : α → β) :
    Follows bound count (result value) journal (do return result (← first)) :=
  before.quietly (follows_pure _)

end

/-- A host that may read and change the counter. A call gives its result and what it printed. -/
abbrev CountedHost := (name : String) → (identity : Nat) → (arguments : List Value) →
  Counting (Except Fault Value × String)

/-- The counted host does as the other host does, and puts the counter back to `count`. -/
def HostFollows (bound count : Nat) (host : Host) (counted : CountedHost) : Prop :=
  ∀ name identity arguments, Follows bound count
    ((host name identity arguments).result, (host name identity arguments).printed)
    (host name identity arguments).journal (counted name identity arguments)

/-- What code works on, but for the journal. -/
structure Workspace where
  scope : Scope
  output : String

def Machine.workspace (machine : Machine) : Workspace := ⟨machine.scope, machine.output⟩

def CountedRun (α : Type) : Type := Workspace → Counting (Except Failure α × Workspace)

namespace CountedRun

variable {α β : Type}

/-- An action that leaves the journal and the counter alone. -/
def ofRun (action : Run α) : CountedRun α := fun workspace =>
  let (result, machine) := action ⟨workspace.scope, workspace.output, []⟩
  Counting.pure (result, machine.workspace)

def resume (next : α → CountedRun β) :
    Except Failure α × Workspace → Counting (Except Failure β × Workspace)
  | (.ok value, workspace) => next value workspace
  | (.error failure, workspace) => return (.error failure, workspace)

def bind (first : CountedRun α) (next : α → CountedRun β) : CountedRun β := fun workspace => do
  resume next (← first workspace)

instance : Monad CountedRun where
  pure value := ofRun (Run.pure value)
  bind := bind

def place (span : Code.Span) : Except Failure α → Except Failure α
  | .error ⟨fault, .none⟩ => .error ⟨fault, some span⟩
  | result => result

def located (span : Code.Span) (action : CountedRun α) : CountedRun α := fun workspace => do
  let (result, workspace) ← action workspace
  return (place span result, workspace)

def callHost (host : CountedHost) (name : String) (identity : Nat) (arguments : List Value)
    (span : Code.Span) : CountedRun Value := fun workspace => do
  let (result, printed) ← host name identity arguments
  ofRun (Run.lift result (some span)) ⟨workspace.scope, workspace.output ++ printed⟩

def actions (limit : Option Nat) (host : CountedHost) : Code.Actions CountedRun where
  fail fault span := ofRun (Run.fail fault span)
  located := located
  set name value := ofRun (Run.set name value)
  print text := ofRun (Run.print text)
  lookup name span := ofRun (Run.lookup name span)
  callHost := callHost host
  within depth action :=
    match limit with
    | some limit => if limit < depth then ofRun (Run.fail .stackOverflow none) else action
    | none => action

end CountedRun

/-- Beside a counter that is at `count`, code does what a plain run of it does. -/
def RunFollows (bound count : Nat) {α : Type} (plain : Run α) (counted : CountedRun α) : Prop :=
  ∀ machine : Machine, ∃ journal, (plain machine).2.journal = machine.journal ++ journal ∧
    Follows bound count ((plain machine).1, (plain machine).2.workspace) journal
      (counted machine.workspace)

namespace RunFollows

variable {bound count : Nat} {α β : Type}

theorem ofRun {action : Run α}
    (quiet : ∀ machine : Machine, action machine =
      ((action ⟨machine.scope, machine.output, []⟩).1,
        { (action ⟨machine.scope, machine.output, []⟩).2 with journal := machine.journal })) :
    RunFollows bound count action (CountedRun.ofRun action) := by
  intro machine
  refine ⟨[], ?_, ?_⟩
  · rw [quiet machine, List.append_nil]
  · rw [quiet machine]
    exact follows_pure _

theorem bind {first : Run α} {second : CountedRun α} {next : α → Run β} {follow : α → CountedRun β}
    (before : RunFollows bound count first second)
    (after : ∀ value, RunFollows bound count (next value) (follow value)) :
    RunFollows bound count (first.bind next) (second >>= follow) := by
  intro machine
  obtain ⟨journal, noted, follows⟩ := before machine
  simp only [Run.bind]
  cases ran : first machine with
  | mk result reached =>
      rw [ran] at noted follows
      cases result with
      | ok value =>
          obtain ⟨more, notedMore, followsOn⟩ := after value reached
          refine ⟨journal ++ more, ?_, ?_⟩
          · rw [notedMore, noted, List.append_assoc]
          · change Follows _ _ _ _ (second machine.workspace >>= CountedRun.resume follow)
            exact follows.bind followsOn
      | error failure =>
          refine ⟨journal, noted, ?_⟩
          change Follows _ _ _ _ (second machine.workspace >>= CountedRun.resume follow)
          exact follows.quietly (follows_pure _)

theorem located {first : Run α} {second : CountedRun α} (span : Code.Span)
    (before : RunFollows bound count first second) :
    RunFollows bound count (Run.located span first) (CountedRun.located span second) := by
  intro machine
  obtain ⟨journal, noted, follows⟩ := before machine
  have same : Run.located span first machine =
      (CountedRun.place span (first machine).1, (first machine).2) := by
    simp only [Run.located, CountedRun.place]
    cases ran : first machine with
    | mk result reached =>
        cases result with
        | ok value => rfl
        | error failure =>
            obtain ⟨fault, place⟩ := failure
            cases place <;> rfl
  rw [same]
  exact ⟨journal, noted, follows.map _⟩

theorem callHost {host : Host} {counted : CountedHost}
    (agrees : HostFollows bound count host counted)
    (name : String) (identity : Nat) (arguments : List Value) (span : Code.Span) :
    RunFollows bound count (Run.callHost host name identity arguments span)
      (CountedRun.callHost counted name identity arguments span) := by
  intro machine
  have called := agrees name identity arguments
  refine ⟨(host name identity arguments).journal, ?_, ?_⟩
  · simp only [Run.callHost, Run.lift]
    cases (host name identity arguments).result <;> rfl
  · refine called.quietly ?_
    simp only [Run.callHost, Run.lift, CountedRun.ofRun]
    cases (host name identity arguments).result <;> exact follows_pure _

/-- Where the host puts the counter back, running code beside the counter is running it. -/
def simulation {host : Host} {counted : CountedHost} (agrees : HostFollows bound count host counted)
    (limit : Option Nat) :
    Code.Simulation id ⟨limit, host⟩ (CountedRun.actions limit counted) where
  Holds := RunFollows bound count
  pure _ := ofRun fun _ => rfl
  bind := bind
  fail fault span := by
    cases span <;> exact ofRun fun _ => rfl
  located := located
  set _ _ := ofRun fun _ => rfl
  print _ := ofRun fun _ => rfl
  lookup name span := by
    -- What a name stands for depends on the scope alone, whichever way it is found.
    apply ofRun
    intro machine
    simp only [Run.lookup]
    cases machine.scope.get? name with
    | some value => rfl
    | none => cases Builtin.named? name <;> rfl
  callHost := callHost agrees
  within depth related := by
    cases limit with
    | none => exact related
    | some limit =>
        simp only [Code.Setting.within, CountedRun.actions]
        split
        · exact ofRun fun _ => rfl
        · exact related

end RunFollows

structure Finished where
  result : Except ExecutionError Unit
  scope : Scope
  output : String

def Execution.finished (execution : Execution) : Finished :=
  ⟨execution.result, execution.scope, execution.output⟩

abbrev CountedExecutor := (code : String) → (scope : Scope) → Counting Finished

def interpretCounted (host : CountedHost) : CountedExecutor := fun code scope =>
  match Code.Program.parse code with
  | .error error => return ⟨.error (.syntactic error), scope, ""⟩
  | .ok program => do
      let (result, workspace) ← program.runIn (CountedRun.actions (some maxDepth) host) ⟨scope, ""⟩
      return ⟨result.mapError .runtime, workspace.scope, workspace.output⟩

def ExecutorFollows (bound count : Nat) (executor : Executor) (counted : CountedExecutor) : Prop :=
  ∀ code scope, Follows bound count (executor code scope).finished (executor code scope).journal
    (counted code scope)

theorem executorFollows_interpret {bound count : Nat} {host : Host} {counted : CountedHost}
    (agrees : HostFollows bound count host counted) :
    ExecutorFollows bound count (interpret host) (interpretCounted counted) := by
  intro code scope
  unfold interpret interpretWithin interpretCounted
  cases Code.Program.parse code with
  | error error => exact follows_pure _
  | ok program =>
      have simulated := (RunFollows.simulation agrees (some maxDepth)).run program
      -- The counted run is of the same program: nothing in it is moved.
      rw [program.relocate_id] at simulated
      obtain ⟨journal, noted, follows⟩ := simulated ⟨scope, "", []⟩
      rw [List.nil_append] at noted
      dsimp only
      cases ran : program.run ⟨some maxDepth, host⟩ ⟨scope, "", []⟩ with
      | mk result reached =>
          rw [ran] at noted follows
          cases result <;> cases noted <;> exact follows.map _

end LiteratePages
