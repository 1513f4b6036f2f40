import LiteratePages.Proofs.Run.Invariant
import LiteratePages.Proofs.Run.Machine
import LiteratePages.Proofs.Run.Sequence
import LiteratePages.Template.Engine

namespace LiteratePages

/-- Nothing, or a text that ends with a line break. -/
def EndsLine (text : String) : Prop := text = "" ∨ ∃ line, text = line ++ "\n"

theorem EndsLine.append {first second : String} (before : EndsLine first)
    (after : EndsLine second) : EndsLine (first ++ second) := by
  cases after with
  | inl nothing => rwa [nothing, String.append_empty]
  | inr some =>
      obtain ⟨line, rfl⟩ := some
      exact .inr ⟨first ++ line, String.append_assoc.symm⟩

theorem Builtin.endsLine_printed (builtin : Builtin) (arguments : List Value) :
    EndsLine (builtin.printed arguments) := by
  cases builtin with
  | print => exact .inr ⟨_, rfl⟩
  | _ => exact .inl rfl

/-- The functions of the host print whole lines or nothing. -/
def Host.PrintsLines (host : Host) : Prop :=
  ∀ name identity arguments, EndsLine (host name identity arguments).printed

theorem templateHost_printsLines (render : String → Metadata → Rendered) :
    (templateHost render).PrintsLines := by
  intro name identity arguments
  unfold templateHost
  split
  · cases templateArguments arguments with
    | error fault => exact .inl rfl
    | ok given =>
        dsimp only
        cases (render given.1 given.2).1 <;> exact .inl rfl
  · exact .inl rfl

/-- From one machine to another at most `names` have been given values. -/
structure Frame (host : Host) (names : List String) (before after : Machine) : Prop where
  kept : ∀ name, before.scope.contains name = true → after.scope.contains name = true
  unwritten : ∀ name ∉ names, after.scope.get? name = before.scope.get? name
  printed : ∃ text, after.output = before.output ++ text ∧ (host.PrintsLines → EndsLine text)

namespace Frame

variable {host : Host} {names : List String} {first second third : Machine}

theorem refl (machine : Machine) : Frame host names machine machine where
  kept _ bound := bound
  unwritten _ _ := rfl
  printed := ⟨"", by simp, fun _ => .inl rfl⟩

theorem trans (before : Frame host names first second) (after : Frame host names second third) :
    Frame host names first third where
  kept name bound := after.kept name (before.kept name bound)
  unwritten name others := by rw [after.unwritten name others, before.unwritten name others]
  printed := by
    obtain ⟨some, printed, ends⟩ := before.printed
    obtain ⟨more, further, endsAgain⟩ := after.printed
    refine ⟨some ++ more, ?_, fun lines => (ends lines).append (endsAgain lines)⟩
    rw [further, printed, String.append_assoc]

theorem set {name : String} (written : name ∈ names) (value : Value) (machine : Machine) :
    Frame host names machine { machine with scope := machine.scope.set name value } where
  kept other bound := by
    by_cases same : other = name
    · subst same
      simp [Scope.contains, Scope.get?_set_self]
    · rwa [Scope.contains, Scope.get?_set_of_ne same]
  unwritten other others := by
    have different : other ≠ name := fun same => others (same.symm ▸ written)
    exact Scope.get?_set_of_ne different machine.scope value
  printed := ⟨"", by simp, fun _ => .inl rfl⟩

end Frame

/-- The run writes no more than these names, however it ends. -/
def Run.Writes (host : Host) (names : List String) {α : Type} (action : Run α) : Prop :=
  ∀ machine, Frame host names machine (action machine).2

namespace Run.Writes

variable {host : Host} {names : List String} {α β : Type}

theorem bind {first : Run α} {next : α → Run β} (writes : first.Writes host names)
    (later : ∀ value, (next value).Writes host names) : (first.bind next).Writes host names := by
  intro machine
  have before := writes machine
  refine Run.bind_elim first next machine ?_ ?_
  · intro value reached ran
    rw [ran] at before
    exact before.trans (later value reached)
  · intro failure reached ran
    rwa [ran] at before

theorem located {action : Run α} (span : Code.Span) (writes : action.Writes host names) :
    (Run.located span action).Writes host names := by
  intro machine
  rw [Run.located_eq]
  exact writes machine

theorem print {text : String} (ends : EndsLine text) : (Run.print text).Writes host names :=
  fun _ => ⟨fun _ bound => bound, fun _ _ => rfl, text, rfl, fun _ => ends⟩

theorem lookup (name : String) (span : Code.Span) : (Run.lookup name span).Writes host names := by
  intro machine
  obtain ⟨made, looked⟩ := Run.lookup_snd name span machine
  rw [looked]
  exact ⟨fun _ bound => bound, fun _ _ => rfl, "", by simp, fun _ => .inl rfl⟩

theorem callHost (name : String) (identity : Nat) (arguments : List Value) (span : Code.Span) :
    (Run.callHost host name identity arguments span).Writes host names := by
  intro machine
  rw [Run.callHost_eq]
  exact ⟨fun _ bound => bound, fun _ _ => rfl, _, rfl, fun lines => lines name identity arguments⟩

end Run.Writes

namespace Code

/-- Code gives values only to what it assigns and to the variables of its loops. -/
def writes (names : List String) (setting : Setting) :
    Invariant (fun occurrence => ∀ name, occurrence.written? = some name → name ∈ names)
      setting where
  Keeps := Run.Writes setting.host names
  pure _ := .refl
  bind := .bind
  fail _ _ := .refl
  located := .located
  set name value allowed := .set (allowed name rfl) value
  print builtin arguments := .print (builtin.endsLine_printed arguments)
  lookup name span _ := .lookup name span
  callHost := .callHost
  within depth _ inside := by
    obtain admits | refuses := setting.within_eq_or depth
    · rw [admits]
      exact inside
    · rw [refuses]
      exact .refl

theorem Program.run_writes (setting : Setting) (program : Program) :
    (program.run setting).Writes setting.host program.assigned :=
  (writes program.assigned setting).run program
    (List.forall_mem_filterMap.mp fun _ member => member)

theorem Expr.eval_writes (setting : Setting) (depth : Nat) (e : Expr) :
    (e.eval setting depth).Writes setting.host [] := by
  apply (writes [] setting).eval depth e
  intro occurrence member name written
  cases occurrence with
  | write other => exact absurd member (e.write_notMem_occurrences other depth)
  | _ => cases written

/-- The conditions before the one for this block are evaluated and not met. -/
inductive Chooses (setting : Setting) (depth : Nat) (otherwise : Option (List Statement)) :
    List (Expr × List Statement) → Machine → List Statement → Machine → Prop where
  | met {condition : Expr} {value : Value} {machine reached : Machine} (body : List Statement)
      (rest : List (Expr × List Statement))
      (evaluated : condition.eval setting (depth + 1) machine = (.ok value, reached))
      (truth : value.truthy = true) :
      Chooses setting depth otherwise ((condition, body) :: rest) machine body reached
  | unmet {condition : Expr} {value : Value} {machine between reached : Machine}
      {rest : List (Expr × List Statement)} {chosen : List Statement} (body : List Statement)
      (evaluated : condition.eval setting (depth + 1) machine = (.ok value, between))
      (falsity : value.truthy = false)
      (later : Chooses setting depth otherwise rest between chosen reached) :
      Chooses setting depth otherwise ((condition, body) :: rest) machine chosen reached
  | otherwise {body : List Statement} {machine : Machine} (given : otherwise = some body) :
      Chooses setting depth otherwise [] machine body machine

/-- The turns for the items before this one run to their ends, and the variable gets the item. -/
inductive Turns (setting : Setting) (depth : Nat) (name : String) (body : List Statement) :
    List Value → Machine → Machine → Prop where
  | here {item : Value} {machine : Machine} (rest : List Value) :
      Turns setting depth name body (item :: rest) machine
        { machine with scope := machine.scope.set name item }
  | later {item : Value} {rest : List Value} {machine between reached : Machine}
      (done : execAll setting (depth + 1) body
        { machine with scope := machine.scope.set name item } = (.ok (), between))
      (turns : Turns setting depth name body rest between reached) :
      Turns setting depth name body (item :: rest) machine reached

/-- Statements that run from a machine come to the statement `target` on `level` with the machine
`stands`. -/
inductive Reaches (setting : Setting) (target : Statement) (level : Nat) (stands : Machine) :
    Nat → List Statement → Machine → Prop where
  | here (rest : List Statement) : Reaches setting target level stands level (target :: rest) stands
  | later {statement : Statement} {rest : List Statement} {depth : Nat} {machine between : Machine}
      (done : statement.exec setting depth machine = (.ok (), between))
      (reaches : Reaches setting target level stands depth rest between) :
      Reaches setting target level stands depth (statement :: rest) machine
  | block {branches : List (Expr × List Statement)} {otherwise : Option (List Statement)}
      {body : List Statement} {depth : Nat} {machine between : Machine} (span : Span)
      (rest : List Statement) (chosen : Chooses setting depth otherwise branches machine body between)
      (admitted : setting.Admits (depth + 1))
      (reaches : Reaches setting target level stands (depth + 1) body between) :
      Reaches setting target level stands depth (.cond branches otherwise span :: rest) machine
  | turn {name : String} {source : Expr} {value : Value} {items : List Value}
      {body : List Statement} {depth : Nat} {machine between begun : Machine} (span : Span)
      (rest : List Statement)
      (evaluated : source.eval setting (depth + 1) machine = (.ok value, between))
      (iterated : value.iterate = .ok items) (admitted : setting.Admits (depth + 1))
      (turns : Turns setting depth name body items between begun)
      (reaches : Reaches setting target level stands (depth + 1) body begun) :
      Reaches setting target level stands depth (.loop name source body span :: rest) machine

/-- The run fails because of this fault and leaves this machine. -/
def Ends (fault : Fault) (final : Machine) (outcome : Except Failure Unit × Machine) : Prop :=
  ∃ span, outcome = (.error ⟨fault, span⟩, final)

section

variable {setting : Setting} {depth : Nat} {fault : Fault} {machine reached final : Machine}

theorem Chooses.execBranches_eq {otherwise : Option (List Statement)}
    {branches : List (Expr × List Statement)} {body : List Statement} {last : Run Unit}
    (chosen : Chooses setting depth otherwise branches machine body reached)
    (admitted : setting.Admits (depth + 1))
    (given : ∀ body, otherwise = some body → last = execAll setting (depth + 1) body) :
    execBranches setting depth branches last machine =
      execAll setting (depth + 1) body reached := by
  induction chosen with
  | met body rest evaluated truth =>
      rw [execBranches, Setting.within_of_admits admitted]
      refine (Run.bind_of_ok _ evaluated).trans ?_
      rw [if_pos truth]
  | unmet body evaluated falsity later ih =>
      rw [execBranches]
      refine (Run.bind_of_ok _ evaluated).trans ?_
      rw [if_neg (by simp [falsity])]
      exact ih
  | otherwise some => rw [execBranches, given _ some]

/-- From where a block is chosen on, the conditional statement does what the block does. -/
theorem Chooses.exec_eq {otherwise : Option (List Statement)}
    {branches : List (Expr × List Statement)} {body : List Statement}
    (chosen : Chooses setting depth otherwise branches machine body reached)
    (admitted : setting.Admits (depth + 1)) (span : Span) :
    (Statement.cond branches otherwise span).exec setting depth machine =
      execAll setting (depth + 1) body reached := by
  cases otherwise with
  | none => exact chosen.execBranches_eq admitted nofun
  | some last =>
      apply chosen.execBranches_eq admitted
      rintro body ⟨⟩
      exact Setting.within_of_admits admitted _

theorem Turns.iterate_eq {name : String} {body : List Statement} {items : List Value}
    (turns : Turns setting depth name body items machine reached) :
    ∃ next, iterate name (execAll setting (depth + 1) body) items machine =
      (execAll setting (depth + 1) body).bind next reached := by
  induction turns with
  | here rest => exact ⟨fun _ => iterate name (execAll setting (depth + 1) body) rest, rfl⟩
  | later done turns ih =>
      obtain ⟨next, same⟩ := ih
      exact ⟨next, (Run.bind_of_ok _ done).trans same⟩

theorem Ends.execAll_cons {statement : Statement}
    (ended : Ends fault final (statement.exec setting depth machine)) (rest : List Statement) :
    Ends fault final (execAll setting depth (statement :: rest) machine) := by
  obtain ⟨span, failed⟩ := ended
  have placed : Run.located statement.span (statement.exec setting depth) machine =
      (.error ⟨fault, some (span.getD statement.span)⟩, final) := by
    rw [Run.located_eq, failed]
    rfl
  exact ⟨_, Run.bind_of_error _ placed⟩

/-- A run ends where it comes to a statement that fails. -/
theorem Reaches.ends {target : Statement} {level : Nat} {stands : Machine}
    {statements : List Statement}
    (reaches : Reaches setting target level stands depth statements machine)
    (failed : Ends fault final (target.exec setting level stands)) :
    Ends fault final (execAll setting depth statements machine) := by
  induction reaches with
  | here rest => exact failed.execAll_cons rest
  | later done reaches ih =>
      rename_i statement rest depth machine between
      have located : Run.located statement.span (statement.exec setting depth) machine =
          (.ok (), between) := by
        rw [Run.located_eq, done]
        rfl
      obtain ⟨span, failed⟩ := ih
      exact ⟨span, (Run.bind_of_ok _ located).trans failed⟩
  | block span rest chosen admitted reaches ih =>
      apply Ends.execAll_cons
      rw [chosen.exec_eq admitted span]
      exact ih
  | turn span rest evaluated iterated admitted turns reaches ih =>
      apply Ends.execAll_cons
      obtain ⟨next, same⟩ := turns.iterate_eq
      obtain ⟨place, failed⟩ := ih
      refine ⟨place, (Run.bind_of_ok _ evaluated).trans ?_⟩
      rw [iterated, Setting.within_of_admits admitted]
      exact same.trans (Run.bind_of_error next failed)

end

/-- An assignment whose value cannot be evaluated ends the run, and leaves every variable as it was
when the run came to it. -/
theorem Program.run_of_reaches_assign {setting : Setting} {program : Program}
    {machine stands final : Machine} {level : Nat} {name : String} {value : Expr} {span : Span}
    {failure : Failure}
    (reaches : Reaches setting (.assign name value span) level stands 0 program machine)
    (failed : value.eval setting (level + 1) stands = (.error failure, final)) :
    Ends failure.fault final (program.run setting machine) ∧
      ∀ other, final.scope.get? other = stands.scope.get? other := by
  have frame := value.eval_writes setting (level + 1) stands
  rw [failed] at frame
  refine ⟨?_, fun other => frame.unwritten other List.not_mem_nil⟩
  rw [Program.run, within_zero]
  exact reaches.ends ⟨failure.span, Run.bind_of_error _ failed⟩

/-- The targets of assignments and the variables of loops in code, if it parses. -/
def assigned (code : String) : List String :=
  match Program.parse code with
  | .ok program => program.assigned
  | .error _ => []

end Code

/-- Parses and runs code on a machine that may have printed before. -/
def execute (host : Host) (code : String) (machine : Machine) :
    Except ExecutionError Unit × Machine :=
  match Code.Program.parse code with
  | .error error => (.error (.syntactic error), machine)
  | .ok program =>
      let (result, machine) := program.run ⟨some maxDepth, host⟩ machine
      (result.mapError .runtime, machine)

theorem execute_of_parses {code : String} {program : Code.Program}
    (parsed : Code.Program.parse code = .ok program) (host : Host) (machine : Machine) :
    execute host code machine =
      ((program.run ⟨some maxDepth, host⟩ machine).1.mapError .runtime,
        (program.run ⟨some maxDepth, host⟩ machine).2) := by
  simp only [execute, parsed]

/-- The interpreter does this on a machine that has not printed yet. -/
theorem interpret_eq_execute (host : Host) (code : String) (scope : Scope) :
    interpret host code scope =
      ⟨(execute host code ⟨scope, "", []⟩).1, (execute host code ⟨scope, "", []⟩).2.scope,
        (execute host code ⟨scope, "", []⟩).2.output,
        (execute host code ⟨scope, "", []⟩).2.journal⟩ := by
  cases parsed : Code.Program.parse code with
  | error error =>
      rw [interpret_of_error parsed]
      simp only [execute, parsed]
  | ok program =>
      rw [interpret_eq_ofRun parsed, execute_of_parses parsed]
      rfl

theorem execute_writes (host : Host) (code : String) (machine : Machine) :
    Frame host (Code.assigned code) machine (execute host code machine).2 := by
  unfold Code.assigned
  cases parsed : Code.Program.parse code with
  | error error =>
      simp only [execute, parsed]
      exact .refl machine
  | ok program =>
      rw [execute_of_parses parsed]
      exact program.run_writes ⟨some maxDepth, host⟩ machine

/-- Code that does not parse changes nothing, and code that does writes no more than it assigns and
prints whole lines, as long as the functions of the host do; the one that renders templates does.
When an assignment fails, its variable is left as it was when the run came to it. -/
theorem execute_keeps_frame (host : Host) (code : String) (machine : Machine) :
    Frame host (Code.assigned code) machine (execute host code machine).2 ∧
      (∀ error, Code.Program.parse code = .error error →
        execute host code machine = (.error (.syntactic error), machine)) ∧
      (∀ program name value span level stands failure final,
        Code.Program.parse code = .ok program →
        Code.Reaches ⟨some maxDepth, host⟩ (.assign name value span) level stands 0 program
          machine →
        value.eval ⟨some maxDepth, host⟩ (level + 1) stands = (.error failure, final) →
        (∃ place, execute host code machine =
          (.error (.runtime ⟨failure.fault, place⟩), final)) ∧
          final.scope.get? name = stands.scope.get? name) ∧
      ∀ render, (templateHost render).PrintsLines := by
  refine ⟨execute_writes host code machine, ?_, ?_, templateHost_printsLines⟩
  · intro error parsed
    simp only [execute, parsed]
  · intro program name value span level stands failure final parsed reaches failed
    obtain ⟨⟨place, ended⟩, same⟩ := Code.Program.run_of_reaches_assign reaches failed
    refine ⟨⟨place, ?_⟩, same name⟩
    rw [execute_of_parses parsed, ended]
    rfl

/-- The second value of `x` cannot be evaluated, in the body of a loop, and the other text does not
parse. -/
theorem execute_keeps_frame_in_loop :
    let host := templateHost fun path _ => (.ok path, [])
    (∃ place final,
      execute host "x = 'a'; for i in 'b' \x7b x = y \x7d" ⟨⟨[("z", .none)], 0⟩, "d\n", []⟩ =
        (.error (.runtime ⟨.undefinedVariable "y", place⟩), final) ∧
      Frame host ["x", "i", "x"] ⟨⟨[("z", .none)], 0⟩, "d\n", []⟩ final ∧
      final.scope.get? "x" = some (.string "a")) ∧
      execute host "x =" ⟨⟨[("z", .none)], 0⟩, "d\n", []⟩ =
        (.error (.syntactic ⟨.expressionEnds, ⟨3, 3⟩⟩), ⟨⟨[("z", .none)], 0⟩, "d\n", []⟩) ∧
      host.PrintsLines := by
  intro host
  have parsed : Code.Program.parse "x = 'a'; for i in 'b' \x7b x = y \x7d" =
      .ok [.assign "x" (.string "a") ⟨0, 7⟩,
        .loop "i" (.string "b") [.assign "x" (.variable "y" ⟨28, 29⟩) ⟨24, 29⟩] ⟨9, 31⟩] := rfl
  have reaches : Code.Reaches ⟨some maxDepth, host⟩
      (.assign "x" (.variable "y" ⟨28, 29⟩) ⟨24, 29⟩) 1
      ⟨⟨[("z", .none), ("x", .string "a"), ("i", .string "b")], 0⟩, "d\n", []⟩ 0
      [.assign "x" (.string "a") ⟨0, 7⟩,
        .loop "i" (.string "b") [.assign "x" (.variable "y" ⟨28, 29⟩) ⟨24, 29⟩] ⟨9, 31⟩]
      ⟨⟨[("z", .none)], 0⟩, "d\n", []⟩ := by
    refine .later rfl (.turn ⟨9, 31⟩ [] rfl rfl ?_ (.here []) (.here []))
    rintro limit ⟨⟩
    decide
  have unparsed : Code.Program.parse "x =" = .error ⟨.expressionEnds, ⟨3, 3⟩⟩ := rfl
  obtain ⟨frame, -, assignments, lines⟩ := execute_keeps_frame host
    "x = 'a'; for i in 'b' \x7b x = y \x7d" ⟨⟨[("z", .none)], 0⟩, "d\n", []⟩
  obtain ⟨⟨place, ended⟩, kept⟩ := assignments _ _ _ _ _ _ _ _ parsed reaches rfl
  rw [ended, Code.assigned, parsed] at frame
  obtain ⟨-, nothing, -⟩ := execute_keeps_frame host "x =" ⟨⟨[("z", .none)], 0⟩, "d\n", []⟩
  exact ⟨⟨place, _, ended, frame, kept⟩, nothing _ unparsed, lines _⟩

end LiteratePages
