import LiteratePages.Proofs.Code.Juxtaposition
import LiteratePages.Proofs.Run.Machine
import LiteratePages.Proofs.Run.Relation
import LiteratePages.Run.Execution

namespace LiteratePages

def Failure.relocate (move : Nat → Nat) (failure : Failure) : Failure :=
  ⟨failure.fault, failure.span.map (Code.Span.relocate move)⟩

def ExecutionError.relocate (move : Nat → Nat) : ExecutionError → ExecutionError
  | .syntactic error => .syntactic ⟨error.cause, error.span.relocate move⟩
  | .runtime failure => .runtime (failure.relocate move)

/-- A machine that had already printed and noted something. -/
def Machine.prepend (output : String) (journal : Journal) (machine : Machine) : Machine :=
  ⟨machine.scope, output ++ machine.output, journal ++ machine.journal⟩

/-- A run that does what another does, at moved places, whatever was printed and noted before. -/
def Run.Displaced (move : Nat → Nat) {α : Type} (first second : Run α) : Prop :=
  ∀ (output : String) (journal : Journal) (machine : Machine),
    second (machine.prepend output journal) =
      ((first machine).1.mapError (Failure.relocate move), (first machine).2.prepend output journal)

namespace Run

variable {α β : Type}

theorem Displaced.bind {move : Nat → Nat} {first second : Run α} {next follow : α → Run β}
    (displaced : Displaced move first second)
    (later : ∀ value, Displaced move (next value) (follow value)) :
    Displaced move (first.bind next) (second.bind follow) := by
  intro output journal machine
  have before := displaced output journal machine
  cases ran : first machine with
  | mk result reached =>
      rw [ran] at before
      cases result with
      | ok value =>
          simp only [Run.bind, ran, before, mapError_ok]
          exact later value output journal reached
      | error failure =>
          simp only [Run.bind, ran, before, mapError_error]

theorem Displaced.located {move : Nat → Nat} {first second : Run α} (span : Code.Span)
    (displaced : Displaced move first second) :
    Displaced move (Run.located span first) (Run.located (span.relocate move) second) := by
  intro output journal machine
  have before := displaced output journal machine
  cases ran : first machine with
  | mk result reached =>
      rw [ran] at before
      cases result with
      | ok value => simp only [Run.located, ran, before, mapError_ok]
      | error failure =>
          obtain ⟨fault, place⟩ := failure
          cases place with
          | none =>
              simp only [Run.located, ran, before, mapError_error, Failure.relocate]
              rfl
          | some place =>
              simp only [Run.located, ran, before, mapError_error, Failure.relocate]
              rfl

/-- Code does the same at moved places and after other output, but for the places of failures. -/
def displaced (move : Nat → Nat) (setting : Code.Setting) :
    Code.RunRelation move setting setting where
  Holds := Displaced move
  pure _ := fun _ _ _ => rfl
  bind := Displaced.bind
  fail _ _ := fun _ _ _ => rfl
  located := Displaced.located
  set _ _ := fun _ _ _ => rfl
  print text := by
    intro output journal machine
    simp only [print, Machine.prepend, String.append_assoc]
    rfl
  lookup name span := by
    intro output journal machine
    simp only [lookup, Machine.prepend]
    cases machine.scope.get? name with
    | some value => rfl
    | none => cases Builtin.named? name <;> rfl
  callHost name identity arguments span := by
    intro output journal machine
    simp only [callHost, Machine.prepend, String.append_assoc, List.append_assoc]
    cases (setting.host name identity arguments).result <;> rfl
  within depth related := by
    obtain admits | refuses := setting.within_eq_or depth
    · rw [admits, admits]
      exact related
    · rw [refuses, refuses]
      exact fun _ _ _ => rfl

theorem bind_assoc {γ : Type} (first : Run α) (next : α → Run β) (last : β → Run γ) :
    (first.bind next).bind last = first.bind fun value => (next value).bind last := by
  funext machine
  simp only [Run.bind]
  cases first machine with
  | mk result reached => cases result <;> rfl

end Run

namespace Code

theorem within_zero {α : Type} (setting : Setting) (action : Run α) :
    setting.within 0 action = action := by
  unfold Setting.within
  cases setting.limit <;> rfl

theorem execAll_append (setting : Setting) (depth : Nat) (first second : List Statement) :
    execAll setting depth (first ++ second) =
      (execAll setting depth first).bind fun _ => execAll setting depth second := by
  induction first with
  | nil => rfl
  | cons statement rest ih =>
      have head : ∀ others, execAll setting depth (statement :: others) =
          (Run.located statement.span (statement.exec setting depth)).bind fun _ =>
            execAll setting depth others := fun _ => rfl
      rw [List.cons_append, head, head, ih, Run.bind_assoc]

theorem Program.run_append (setting : Setting) (first second : Program) :
    Program.run setting (first ++ second) =
      (first.run setting).bind fun _ => second.run setting := by
  simp only [Program.run, within_zero]
  exact execAll_append setting 0 first second

end Code

def Execution.ofRun (outcome : Except Failure Unit × Machine) : Execution :=
  ⟨outcome.1.mapError .runtime, outcome.2.scope, outcome.2.output, outcome.2.journal⟩

theorem interpret_eq_ofRun {code : String} {program : Code.Program}
    (parsed : Code.Program.parse code = .ok program) (host : Host) (scope : Scope) :
    interpret host code scope =
      .ofRun (program.run ⟨some maxDepth, host⟩ ⟨scope, "", []⟩) := by
  simp only [interpret, interpretWithin, parsed]
  cases program.run ⟨some maxDepth, host⟩ ⟨scope, "", []⟩ with
  | mk result reached => cases result <;> rfl

theorem interpret_of_error {code : String} {error : Code.SyntaxError}
    (failed : Code.Program.parse code = .error error) (host : Host) (scope : Scope) :
    interpret host code scope = ⟨.error (.syntactic error), scope, "", []⟩ := by
  simp only [interpret, interpretWithin, failed]

/-- What comes of running code and then, unless that failed, other code in the scope that is left,
which stands `bytes` bytes further on. -/
def Execution.andThen (bytes : Nat) (first : Execution) (next : Scope → Execution) : Execution :=
  match first.result with
  | .error _ => first
  | .ok () =>
      let second := next first.scope
      ⟨second.result.mapError (ExecutionError.relocate (· + bytes)), second.scope,
        first.output ++ second.output, first.journal ++ second.journal⟩

/-- Two pieces of code that parse make one piece on lines of their own. Its statements are those of
the first and then those of the second, with every place moved by the bytes that come before it, and
running it is running the first and then, unless that failed, the second in the scope left. -/
theorem interpret_append_newline {first second : String} {program other : Code.Program}
    (left : Code.Program.parse first = .ok program) (right : Code.Program.parse second = .ok other) :
    Code.Program.parse (first ++ "\n" ++ second) =
        .ok (program ++ other.relocate (· + (first.utf8ByteSize + 1))) ∧
      ∀ host scope, interpret host (first ++ "\n" ++ second) scope =
        (interpret host first scope).andThen (first.utf8ByteSize + 1) (interpret host second) := by
  have whole : Code.Program.parse (first ++ "\n" ++ second) =
      .ok (program ++ other.relocate (· + (first.utf8ByteSize + 1))) := by
    have joined := Code.ofChars_append_newline left right
    rw [← utf8ByteSize_ofList, String.ofList_toList] at joined
    simpa [Code.Program.parse] using joined
  refine ⟨whole, fun host scope => ?_⟩
  have later := (Run.displaced (· + (first.utf8ByteSize + 1)) ⟨some maxDepth, host⟩).run other
  rw [interpret_eq_ofRun whole, interpret_eq_ofRun left, Code.Program.run_append]
  cases ran : program.run ⟨some maxDepth, host⟩ ⟨scope, "", []⟩ with
  | mk result reached =>
      cases result with
      | error failure => simp only [Run.bind, ran, Execution.andThen, Execution.ofRun, mapError_error]
      | ok _ =>
          have resumed := later reached.output reached.journal ⟨reached.scope, "", []⟩
          have start : (⟨reached.scope, "", []⟩ : Machine).prepend reached.output reached.journal =
              reached := by
            simp [Machine.prepend]
          rw [start] at resumed
          simp only [Run.bind, ran, resumed, Execution.andThen, Execution.ofRun, mapError_ok,
            interpret_eq_ofRun right]
          cases (other.run ⟨some maxDepth, host⟩ ⟨reached.scope, "", []⟩).1 <;> rfl

/-- A comment, and a condition whose `else` could stand on the next line, end with the first
piece. -/
theorem interpret_append_newline_after_condition :
    Code.Program.parse ("if y \x7b \x7d # z" ++ "\n" ++ "print(f\"\x7bx\x7d\")") =
        .ok ([.cond [(.variable "y" ⟨3, 4⟩, [])] none ⟨0, 8⟩] ++
          [.expr (.call (.variable "print" ⟨13, 18⟩)
            [.format [.code (.variable "x" ⟨22, 23⟩)]] ⟨13, 26⟩) ⟨13, 26⟩]) ∧
      ∀ host scope,
        interpret host ("if y \x7b \x7d # z" ++ "\n" ++ "print(f\"\x7bx\x7d\")") scope =
          (interpret host "if y \x7b \x7d # z" scope).andThen ("if y \x7b \x7d # z".utf8ByteSize + 1)
            (interpret host "print(f\"\x7bx\x7d\")") := by
  have left : Code.Program.parse "if y \x7b \x7d # z" =
      .ok [.cond [(.variable "y" ⟨3, 4⟩, [])] none ⟨0, 8⟩] := rfl
  have right : Code.Program.parse "print(f\"\x7bx\x7d\")" =
      .ok [.expr (.call (.variable "print" ⟨0, 5⟩)
        [.format [.code (.variable "x" ⟨9, 10⟩)]] ⟨0, 13⟩) ⟨0, 13⟩] := rfl
  exact interpret_append_newline left right

end LiteratePages
