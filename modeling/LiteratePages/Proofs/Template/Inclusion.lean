import LiteratePages.Files
import LiteratePages.Proofs.Template.Juxtaposition

namespace LiteratePages

namespace Body

variable {before code : List Char} (rest : List Char)

/-- Code without a closing brace is read up to the pair that ends the expression. -/
theorem scan_code (passed first : List Char) (unclosed : '\x7d' ∉ code) :
    scan (.inside passed first) (code ++ closingPair ++ rest) =
      ⟨⟨passed.reverse, first.reverse ++ code⟩ :: (ofChars rest).holes, (ofChars rest).after⟩ := by
  induction code generalizing first with
  | nil => simp [scan, closingPair, ofChars]
  | cons c more ih =>
      have other := List.ne_of_not_mem_cons unclosed
      have later := ih (c :: first) (List.not_mem_of_not_mem_cons unclosed)
      rw [List.cons_append, List.cons_append, scan, if_neg other.symm, later, List.reverse_cons,
        List.append_assoc, List.singleton_append]

theorem ofChars_of_unopened (unopened : ¬ openingPair <:+: before) :
    ofChars before = ⟨[], before⟩ := by
  have whole := toChars_ofChars before
  generalize ofChars before = body at whole
  obtain ⟨holes, after⟩ := body
  cases holes with
  | nil => rw [← whole, toChars, List.flatMap_nil, List.nil_append]
  | cons hole rest =>
      rw [toChars_cons, Hole.written_eq] at whole
      exact absurd ⟨hole.before, hole.code ++ closingPair ++ toChars ⟨rest, after⟩,
        by simp [← whole]⟩ unopened

/-- A text with one expression between a start without one and any other text. -/
theorem ofChars_hole (unopened : ¬ openingPair <:+: before)
    (ended : before.getLast? ≠ some '\x7b') (some : code ≠ []) (unclosed : '\x7d' ∉ code) :
    ofChars (before ++ (openingPair ++ code ++ closingPair) ++ rest) =
      ⟨⟨before, code⟩ :: (ofChars rest).holes, (ofChars rest).after⟩ := by
  obtain ⟨first, more, rfl⟩ := List.exists_cons_of_ne_nil some
  have inside : ofChars (openingPair ++ (first :: more) ++ closingPair ++ rest) =
      ⟨⟨[], first :: more⟩ :: (ofChars rest).holes, (ofChars rest).after⟩ :=
    scan_code rest [] [first] (List.not_mem_of_not_mem_cons unclosed)
  have alone := ofChars_of_unopened unopened
  have joined : ofChars (before ++ (openingPair ++ (first :: more) ++ closingPair ++ rest)) = _ :=
    ofChars_append (by rwa [alone]) (.inl ended)
  rw [List.append_assoc, joined, alone, inside]
  simp [join]

theorem ofChars_of_no_expressions {text : String} (none : expressionRanges text = []) :
    ofChars text.toList = ⟨[], text.toList⟩ := by
  have whole := toChars_ofChars text.toList
  unfold expressionRanges at none
  generalize ofChars text.toList = body at whole none
  obtain ⟨holes, after⟩ := body
  cases holes with
  | nil => rw [← whole, toChars, List.flatMap_nil, List.nil_append]
  | cons hole rest => cases none

end Body

/-- A text with one expression shows what that comes to between what stands around it. -/
theorem fill_hole (executor : Executor) (origin : String) (data : Metadata)
    {before shown after : String} {code : List Char}
    (written : shown.toList = openingPair ++ code ++ closingPair) (nonempty : code ≠ [])
    (unclosed : '\x7d' ∉ code) (unopened : ¬ openingPair <:+: before.toList)
    (ended : before.toList.getLast? ≠ some '\x7b') (others : expressionRanges after = []) :
    fill executor origin (before ++ shown ++ after) data =
      ((evaluateHole executor origin data 0 ⟨before.toList, code⟩).1.map (before ++ · ++ after),
        (evaluateHole executor origin data 0 ⟨before.toList, code⟩).2) := by
  have body : Body.ofChars (before ++ shown ++ after).toList =
      ⟨[⟨before.toList, code⟩], after.toList⟩ := by
    have parts := Body.ofChars_hole after.toList unopened ended nonempty unclosed
    rwa [Body.ofChars_of_no_expressions others, ← written, ← String.toList_append,
      ← String.toList_append] at parts
  unfold fill
  simp only [body, fillHoles]
  cases evaluateHole executor origin data 0 ⟨before.toList, code⟩ with
  | mk result journal => cases result <;> simp [Except.map]

/-- The machine after the value has been printed, if there is one. -/
def Machine.shows (machine : Machine) : Except Failure Value → Machine
  | .ok value => { machine with output := machine.output ++ (value.display ++ "\n") }
  | .error _ => machine

namespace Code

variable {setting : Setting} {depth : Nat} {machine : Machine}

theorem Expr.eval_bound {name : String} {value : Value} (admitted : setting.Admits depth)
    (bound : machine.scope.get? name = some value) (span : Span) :
    (Expr.variable name span).eval setting depth machine = (.ok value, machine) := by
  rw [Expr.eval, Setting.within_of_admits admitted, Run.lookup, bound]

/-- The call of a host function with the values of two variables. -/
theorem Expr.eval_hostCall {name first second : String} {identity : Nat} {one other : Value}
    (admitted : setting.Admits (depth + 1))
    (function : machine.scope.get? name = some (.function ⟨.host name, identity⟩))
    (firstBound : machine.scope.get? first = some one)
    (secondBound : machine.scope.get? second = some other) (place here there span : Span) :
    (Expr.call (.variable name place) [.variable first here, .variable second there] span).eval
        setting depth machine =
      ((setting.host name identity [one, other]).result.mapError (⟨·, some span⟩),
        ⟨machine.scope, machine.output ++ (setting.host name identity [one, other]).printed,
          machine.journal ++ (setting.host name identity [one, other]).journal⟩) := by
  have outer : setting.Admits depth := admitted.mono (Nat.le_succ depth)
  have called := Expr.eval_bound admitted function place
  have given : evalAll setting (depth + 1) [.variable first here, .variable second there] machine =
      (.ok [one, other], machine) := by
    simp only [evalAll, bind, pure, Run.bind, Run.pure, Expr.eval_bound admitted firstBound,
      Expr.eval_bound admitted secondBound]
  rw [Expr.eval, Setting.within_of_admits outer]
  refine (Run.bind_of_ok _ called).trans ((Run.bind_of_ok _ given).trans ?_)
  exact Run.callHost_eq ..

/-- Where the name of a builtin means that builtin, printing a value shows it on a line. -/
theorem Expr.eval_print {argument : Expr} {result : Except Failure Value} {reached : Machine}
    (admitted : setting.Admits (depth + 1)) (unbound : machine.scope.get? "print" = Option.none)
    (given : argument.eval setting (depth + 1)
      { machine with scope := ⟨machine.scope.bindings, machine.scope.made + 1⟩ } =
        (result, reached)) (place span : Span) :
    (Expr.call (.variable "print" place) [argument] span).eval setting depth machine =
      (result.map fun _ => .none, reached.shows result) := by
  have outer : setting.Admits depth := admitted.mono (Nat.le_succ depth)
  have printer : Expr.eval setting (depth + 1) (.variable "print" place) machine =
      (.ok (.function ⟨.builtin .print, machine.scope.made⟩),
        { machine with scope := ⟨machine.scope.bindings, machine.scope.made + 1⟩ }) := by
    rw [Expr.eval, Setting.within_of_admits admitted, Run.lookup, unbound]
    rfl
  rw [Expr.eval, Setting.within_of_admits outer]
  refine (Run.bind_of_ok _ printer).trans ?_
  cases result with
  | ok value =>
      have arguments : evalAll setting (depth + 1) [argument]
          { machine with scope := ⟨machine.scope.bindings, machine.scope.made + 1⟩ } =
            (.ok [value], reached) := Run.bind_of_ok _ given
      exact Run.bind_of_ok _ arguments
  | error failure =>
      have arguments : evalAll setting (depth + 1) [argument]
          { machine with scope := ⟨machine.scope.bindings, machine.scope.made + 1⟩ } =
            (.error failure, reached) := Run.bind_of_error _ given
      exact Run.bind_of_error _ arguments

/-- A program that is one expression comes to what that expression comes to. -/
theorem Program.run_expr (admitted : setting.Admits 0) (e : Expr) (span : Span) :
    Program.run setting [.expr e span] machine =
      (((e.eval setting 1 machine).1.map fun _ => ()).mapError (Failure.placed span),
        (e.eval setting 1 machine).2) := by
  have exec : Statement.exec setting 0 (.expr e span) machine =
      ((e.eval setting 1 machine).1.map fun _ => (), (e.eval setting 1 machine).2) := by
    cases ran : e.eval setting 1 machine with
    | mk result reached =>
        cases result with
        | ok value => exact Run.bind_of_ok _ ran
        | error failure => exact Run.bind_of_error _ ran
  have placed := Run.located_eq span (Statement.exec setting 0 (.expr e span)) machine
  rw [exec] at placed
  rw [Program.run, Setting.within_of_admits admitted, execAll]
  cases result : (e.eval setting 1 machine).1 with
  | ok value =>
      rw [result] at placed
      exact Run.bind_of_ok _ placed
  | error failure =>
      rw [result] at placed
      exact Run.bind_of_error _ placed

end Code

/-- The code of an expression that renders another template and shows it. -/
def inclusionCode : String := "print(render_template(P, M)) "

theorem parse_inclusionCode : Code.Program.parse inclusionCode =
    .ok [.expr (.call (.variable "print" ⟨0, 5⟩)
      [.call (.variable "render_template" ⟨6, 21⟩)
        [.variable "P" ⟨22, 23⟩, .variable "M" ⟨25, 26⟩] ⟨6, 27⟩] ⟨0, 28⟩) ⟨0, 28⟩] := rfl

theorem interpret_inclusionCode (host : Host) {scope : Scope} {path data : Value} {identity : Nat}
    (unbound : scope.get? "print" = none)
    (template : scope.get? "render_template" = some (.function ⟨.host "render_template", identity⟩))
    (pathBound : scope.get? "P" = some path) (dataBound : scope.get? "M" = some data) :
    interpret host inclusionCode scope =
      match host "render_template" identity [path, data] with
      | ⟨.ok value, printed, journal⟩ =>
          ⟨.ok (), ⟨scope.bindings, scope.made + 1⟩, printed ++ (value.display ++ "\n"), journal⟩
      | ⟨.error fault, printed, journal⟩ =>
          ⟨.error (.runtime ⟨fault, some ⟨6, 27⟩⟩), ⟨scope.bindings, scope.made + 1⟩, printed,
            journal⟩ := by
  have admitted : ∀ depth, depth ≤ 3 → (Code.Setting.mk (some maxDepth) host).Admits depth := by
    rintro depth low limit ⟨⟩
    exact Nat.le_trans low (by decide)
  have called : Code.Expr.eval _ 2 _ ⟨⟨scope.bindings, scope.made + 1⟩, "", []⟩ = _ :=
    Code.Expr.eval_hostCall (admitted 3 (by decide)) template pathBound dataBound ⟨6, 21⟩ ⟨22, 23⟩
      ⟨25, 26⟩ ⟨6, 27⟩
  have printed : Code.Expr.eval _ 1 _ ⟨scope, "", []⟩ = _ :=
    Code.Expr.eval_print (admitted 2 (by decide)) unbound called ⟨0, 5⟩ ⟨0, 28⟩
  rw [interpret_eq_ofRun parse_inclusionCode, Code.Program.run_expr (admitted 0 (by decide)),
    printed]
  dsimp only
  rw [String.empty_append]
  cases host "render_template" identity [path, data] with
  | mk result printed journal => cases result <;> rfl

theorem withoutFinalNewline_append (text : String) : withoutFinalNewline (text ++ "\n") = text := by
  simp [withoutFinalNewline, Text.dropFinal]

/-- Templates that are given data are rendered with that data as JSON. -/
theorem templateHost_map (render : String → Metadata → Rendered) (identity : Nat) (path : String)
    (entries : Entries Value) :
    templateHost render renderTemplateName identity [.string path, .map entries] =
      match render path (Value.entriesToJson entries) with
      | (.ok text, journal) => ⟨.ok (.string text), "", journal⟩
      | (.error error, journal) =>
          ⟨.error (.host ("render_template(" ++ quoted path ++ "): " ++ error.message)), "",
            journal⟩ := by
  unfold templateHost
  rw [if_pos rfl]
  dsimp only [templateArguments]
  cases render path (Value.entriesToJson entries) with
  | mk result journal => cases result <;> rfl

/-- What an expression with this code comes to is what rendering the template comes to. -/
theorem evaluateHole_inclusion (render : String → Metadata → Rendered) (path : String)
    (data : Metadata) (origin : String) (index : Nat) (before : List Char) :
    evaluateHole (interpret (templateHost render)) origin
        [("M", .object data), ("P", .string path)] index
        ⟨before, " print(render_template(P, M)) ".toList⟩ =
      match render path (Value.entriesToJson (Value.entriesOfJson data)) with
      | (.ok text, journal) => (.ok text, .ran inclusionCode :: journal)
      | (.error error, journal) =>
          (.error (.expression origin index inclusionCode (.runtime
            ⟨.host ("render_template(" ++ quoted path ++ "): " ++ error.message), some ⟨6, 27⟩⟩)),
            .ran inclusionCode :: journal) := by
  have dedented : String.ofList (Text.dedent " print(render_template(P, M)) ".toList) =
      inclusionCode := by decide +kernel
  have bound := expressionScope_get? [("M", .object data), ("P", .string path)]
  have ran := interpret_inclusionCode (templateHost render) (bound "print") (bound _) (bound "P")
    (bound "M")
  unfold evaluateHole
  dsimp only
  rw [dedented, ran]
  have called : templateHost render "render_template" 0
      [Value.ofJson (.string path), Value.ofJson (.object data)] = _ :=
    templateHost_map render 0 path (Value.entriesOfJson data)
  rw [called]
  cases rendered : render path (Value.entriesToJson (Value.entriesOfJson data)) with
  | mk result journal =>
      cases result with
      | ok text => simp [withoutFinalNewline_append, Value.display, Value.shown]
      | error error => rfl

/-- A text that includes a template renders to what the template renders to by itself, between what
stands around the expression, and nothing in it is looked at again. Where the template fails, the
expression fails, and says why. -/
theorem renderText_inclusion (files : Texts) (literateExtension : String) (maxNesting : Nat)
    (path : String) (data : Metadata) {before after : String}
    (unopened : ¬ openingPair <:+: before.toList) (ended : before.toList.getLast? ≠ some '\x7b')
    (others : expressionRanges after = []) :
    let engine : Engine := ⟨files, literateExtension, maxNesting, interpret⟩
    engine.renderText (before ++ "\x7b\x7b print(render_template(P, M)) \x7d\x7d" ++ after)
        [("M", .object data), ("P", .string path)] =
      match engine.render path (Value.entriesToJson (Value.entriesOfJson data)) with
      | (.ok text, journal) => (.ok (before ++ text ++ after), .ran inclusionCode :: journal)
      | (.error error, journal) =>
          (.error (.expression "<string>" 0 inclusionCode (.runtime
            ⟨.host ("render_template(" ++ quoted path ++ "): " ++ error.message), some ⟨6, 27⟩⟩)),
            .ran inclusionCode :: journal) := by
  intro engine
  have written : "\x7b\x7b print(render_template(P, M)) \x7d\x7d".toList =
      openingPair ++ " print(render_template(P, M)) ".toList ++ closingPair := by decide +kernel
  have some : " print(render_template(P, M)) ".toList ≠ [] := by decide +kernel
  have unclosed : '\x7d' ∉ " print(render_template(P, M)) ".toList := by decide +kernel
  have filled := fill_hole (interpret (templateHost engine.render)) "<string>"
    [("M", .object data), ("P", .string path)] written some unclosed unopened ended others
  rw [evaluateHole_inclusion] at filled
  refine Eq.trans filled ?_
  cases engine.render path (Value.entriesToJson (Value.entriesOfJson data)) with
  | mk result journal => cases result <;> rfl

/-- The template, which lies beside the working directory, holds an opening pair and ends in a line
feed. -/
theorem renderText_inclusion_braces :
    let files : Files := ⟨[(["t"], .file "\x7b\x7b a \x7b\n".toUTF8)], ["w"]⟩
    let engine : Engine := ⟨files, "lit", 1, interpret⟩
    engine.renderText
        ("é \x7b b " ++ "\x7b\x7b print(render_template(P, M)) \x7d\x7d" ++
          " \x7d\x7d \x7b\x7b\x7d")
        [("M", .object [("k", .null)]), ("P", .string "/t")] =
      (.ok ("é \x7b b " ++ "\x7b\x7b a \x7b\n" ++ " \x7d\x7d \x7b\x7b\x7d"),
        [.ran inclusionCode, .entered "/t", .read "/t", .left "/t"]) := by
  intro files engine
  have alone : engine.render "/t" [("k", .null)] =
      (.ok "\x7b\x7b a \x7b\n", [.entered "/t", .read "/t", .left "/t"]) := by
    have plain : engine.isLiterate "/t" = false := by decide +kernel
    simp only [Engine.render, Engine.renderWithin, Engine.renderFile, engine, Engine.templateBody,
      plain, fill]
    rfl
  have unopened : ¬ openingPair <:+: "é \x7b b ".toList := by decide +kernel
  have ended : "é \x7b b ".toList.getLast? ≠ some '\x7b' := by decide +kernel
  have others : expressionRanges " \x7d\x7d \x7b\x7b\x7d" = [] := by decide +kernel
  have included := renderText_inclusion files "lit" 1 "/t" [("k", .null)] unopened ended others
  refine included.trans ?_
  have same : Value.entriesToJson (Value.entriesOfJson [("k", .null)]) = [("k", .null)] := rfl
  rw [same, alone]

end LiteratePages
