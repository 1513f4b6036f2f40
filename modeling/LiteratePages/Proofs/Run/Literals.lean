import LiteratePages.Proofs.Code.Written
import LiteratePages.Proofs.Run.Machine
import LiteratePages.Proofs.Run.Unplacing

namespace LiteratePages

mutual

/-- Values without numbers, functions and line feeds, whose maps are in the order of their keys. A
key stands between quotes as it is, so it holds nothing that needs a backslash. -/
def Value.Readable : Value → Prop
  | .none | .boolean _ => True
  | .string text => '\n' ∉ text.toList
  | .list items => ReadableItems items
  | .map entries => (entries.map (·.1)).Pairwise (· < ·) ∧ ReadableEntries entries
  | .number _ | .function _ => False
termination_by structural value => value

def ReadableItems : List Value → Prop
  | [] => True
  | item :: rest => item.Readable ∧ ReadableItems rest
termination_by structural items => items

def ReadableEntries : List (String × Value) → Prop
  | [] => True
  | (key, value) :: rest =>
      ('"' ∉ key.toList ∧ '\n' ∉ key.toList ∧ '\\' ∉ key.toList) ∧ value.Readable ∧
        ReadableEntries rest
termination_by structural entries => entries

end

mutual

/-- How many containers deep a value is. -/
def Value.nesting : Value → Nat
  | .list items => nestingOfItems items + 1
  | .map entries => nestingOfEntries entries + 1
  | _ => 0
termination_by structural value => value

def nestingOfItems : List Value → Nat
  | [] => 0
  | item :: rest => max item.nesting (nestingOfItems rest)
termination_by structural items => items

def nestingOfEntries : List (String × Value) → Nat
  | [] => 0
  | (_, value) :: rest => max value.nesting (nestingOfEntries rest)
termination_by structural entries => entries

end

mutual

/-- The expression for a value. Functions have none. -/
def Value.literal : Value → Code.Expr
  | .number value => .number value
  | .boolean value => .boolean value
  | .string value => .string value
  | .none | .function _ => .none
  | .list items => .list (literals items)
  | .map entries => .map (literalEntries entries)
termination_by structural value => value

def literals : List Value → List Code.Expr
  | [] => []
  | item :: rest => item.literal :: literals rest
termination_by structural items => items

def literalEntries : List (String × Value) → List (Code.Expr × Code.Expr)
  | [] => []
  | (key, value) :: rest => (.string key, value.literal) :: literalEntries rest
termination_by structural entries => entries

end

mutual

theorem Value.equal_self : (value : Value) → value.Readable → value.equal value = true
  | .none, _ => rfl
  | .boolean value, _ => beq_self_eq_true value
  | .string text, _ => beq_self_eq_true text
  | .list items, readable => equalItems_self items readable
  | .map entries, readable => equalEntries_self entries readable.2
termination_by structural value => value

theorem equalItems_self :
    (items : List Value) → ReadableItems items → Value.equalItems items items = true
  | [], _ => rfl
  | item :: rest, readable => by
      rw [Value.equalItems, item.equal_self readable.1, equalItems_self rest readable.2,
        Bool.and_self]
termination_by structural items => items

theorem equalEntries_self : (entries : List (String × Value)) → ReadableEntries entries →
    Value.equalEntries entries entries = true
  | [], _ => rfl
  | (key, value) :: rest, readable => by
      rw [Value.equalEntries, beq_self_eq_true, value.equal_self readable.2.1,
        equalEntries_self rest readable.2.2]
      rfl
termination_by structural entries => entries

end

section Running

variable {setting : Code.Setting} {depth : Nat}

mutual

/-- A literal gives its value. -/
theorem Value.eval_literal (depth : Nat) : (value : Value) → value.Readable →
    setting.Admits (depth + value.nesting) → value.literal.eval setting depth = Run.pure value
  | .none, _, admitted => Code.Setting.within_of_admits admitted _
  | .boolean _, _, admitted => Code.Setting.within_of_admits admitted _
  | .string _, _, admitted => Code.Setting.within_of_admits admitted _
  | .list items, readable, admitted => by
      have here : setting.Admits depth := admitted.mono (Nat.le_add_right ..)
      have inside := evalAll_literals (depth + 1) items readable (admitted.mono (by
        rw [Value.nesting]
        omega))
      rw [Value.literal, Code.Expr.eval, Code.Setting.within_of_admits here, inside]
      rfl
  | .map entries, readable, admitted => by
      have here : setting.Admits depth := admitted.mono (Nat.le_add_right ..)
      have inside := evalEntries_literals (depth + 1) entries [] readable.2 readable.1
        (admitted.mono (by
          rw [Value.nesting]
          omega))
      rw [Value.literal, Code.Expr.eval, Code.Setting.within_of_admits here, inside]
      rfl
termination_by structural value => value

theorem evalAll_literals (depth : Nat) : (items : List Value) → ReadableItems items →
    setting.Admits (depth + nestingOfItems items) →
      Code.evalAll setting depth (literals items) = Run.pure items
  | [], _, _ => rfl
  | item :: rest, readable, admitted => by
      have first := item.eval_literal depth readable.1 (admitted.mono (by
        rw [nestingOfItems]
        omega))
      have later := evalAll_literals depth rest readable.2 (admitted.mono (by
        rw [nestingOfItems]
        omega))
      rw [literals, Code.evalAll, first, later]
      rfl
termination_by structural items => items

/-- Keys that ascend are put behind those before them. -/
theorem evalEntries_literals (depth : Nat) : (entries before : List (String × Value)) →
    ReadableEntries entries → ((before ++ entries).map (·.1)).Pairwise (· < ·) →
    setting.Admits (depth + nestingOfEntries entries) →
      Code.evalEntries setting depth before (literalEntries entries) = Run.pure (before ++ entries)
  | [], before, _, _, _ => by
      rw [List.append_nil]
      rfl
  | (key, value) :: rest, before, readable, sorted, admitted => by
      have label : (Code.Expr.string key).eval setting depth = Run.pure (.string key) :=
        Code.Setting.within_of_admits (admitted.mono (Nat.le_add_right ..)) _
      have first := value.eval_literal depth readable.2.1 (admitted.mono (by
        rw [nestingOfEntries]
        omega))
      have above : ∀ other ∈ Entries.keys before, other < key := by
        rw [List.map_append] at sorted
        exact fun other member =>
          (List.pairwise_append.mp sorted).2.2 other member key List.mem_cons_self
      have moved : before ++ (key, value) :: rest = (before ++ [(key, value)]) ++ rest := by simp
      have later := evalEntries_literals depth rest (before ++ [(key, value)]) readable.2.2
        (moved ▸ sorted) (admitted.mono (by
          rw [nestingOfEntries]
          omega))
      rw [moved, ← later, ← Entries.insert_of_forall_lt above value, literalEntries,
        Code.evalEntries, label, first]
      rfl
termination_by structural entries => entries

end

end Running

section Reading

theorem escapeChar_unbroken {c : Char} (bare : c ≠ '\n') :
    Code.Unbroken false (Value.escapeChar c) := by
  unfold Value.escapeChar
  split
  · exact Code.unbroken_escaped '\\'
  split
  · exact Code.unbroken_escaped '"'
  · rename_i plain unquoted
    exact Code.unbroken_of_notMem (by simpa using Ne.symm unquoted) (by simpa using bare.symm)
      (by simpa using Ne.symm plain)

theorem unescape_escapeChar (c : Char) (rest : List Char) :
    Code.unescape (Value.escapeChar c ++ rest) = c :: Code.unescape rest := by
  unfold Value.escapeChar
  split
  · rename_i same
    rw [same]
    exact Code.unescape_escaped '\\' rest
  split
  · rename_i same
    rw [same]
    exact Code.unescape_escaped '"' rest
  · rename_i plain _
    exact Code.unescape_cons plain rest

/-- Escaping is undone. -/
theorem unescape_escaped (text : List Char) :
    Code.unescape (text.flatMap Value.escapeChar) = text := by
  induction text with
  | nil => rfl
  | cons c rest ih => rw [List.flatMap_cons, unescape_escapeChar, ih]

theorem written_escape {text : String} (bare : '\n' ∉ text.toList) :
    Code.Written (Value.escape text).toList [.string text] := by
  have written := Code.Written.string (Code.unbroken_flatMap fun _ member =>
    escapeChar_unbroken (ne_of_mem_of_not_mem member bare))
  rw [unescape_escaped, String.ofList_toList] at written
  rw [Value.escape, String.toList_ofList]
  exact written

/-- A key stands between quotes as it is. -/
theorem written_entry {key shown : String} {tokens : List Code.Token}
    (readable : '"' ∉ key.toList ∧ '\n' ∉ key.toList ∧ '\\' ∉ key.toList)
    (written : Code.Written shown.toList tokens) :
    Code.Written ("\"" ++ key ++ "\": " ++ shown).toList (.string key :: .colon :: tokens) := by
  obtain ⟨unquoted, bare, plain⟩ := readable
  have label := Code.Written.string (Code.unbroken_of_notMem unquoted bare plain)
  rw [Code.unescape_of_notMem plain, String.ofList_toList] at label
  have entry := label.join (c := ':') written.blank (by decide) rfl
  have chars : ("\"" ++ key ++ "\": " ++ shown).toList =
      '"' :: key.toList ++ ['"'] ++ ':' :: ' ' :: shown.toList := by simp
  rwa [chars]

mutual

/-- The text of a value inside of a container reads as the tokens of its expression. -/
theorem Value.written_shown : (value : Value) → value.Readable →
    ∃ tokens, value.literal.Prints tokens ∧ Code.Written (value.shown true).toList tokens
  | .none, _ => ⟨_, .none, Code.Written.word (by decide) (List.all_eq_true.mp (by decide))⟩
  | .boolean value, _ => by
      refine ⟨_, .boolean value, ?_⟩
      cases value with
      | false => exact Code.Written.word (by decide) (List.all_eq_true.mp (by decide))
      | true => exact Code.Written.word (by decide) (List.all_eq_true.mp (by decide))
  | .string text, bare => ⟨_, .string text, written_escape bare⟩
  | .list items, readable => by
      obtain ⟨tokens, printed, written⟩ := written_shownItems items readable
      have enclosed : Code.Written ('[' :: _ ++ [']']) (.openBracket :: tokens ++ [.closeBracket]) :=
        written.enclosed rfl rfl (.inl ⟨rfl, rfl⟩)
      refine ⟨_, .list printed, ?_⟩
      rw [Value.shown]
      simpa using enclosed
  | .map entries, readable => by
      obtain ⟨tokens, printed, written⟩ := written_shownEntries entries readable.2
      have enclosed : Code.Written ('\x7b' :: _ ++ ['\x7d'])
          (.openBrace :: tokens ++ [.closeBrace]) :=
        written.enclosed rfl rfl (.inr ⟨rfl, rfl⟩)
      refine ⟨_, .map printed, ?_⟩
      rw [Value.shown]
      simpa using enclosed
termination_by structural value => value

theorem written_shownItems : (items : List Value) → ReadableItems items →
    ∃ tokens, Code.PrintsItems (literals items) tokens ∧
      Code.Written (", ".intercalate (Value.shownItems items)).toList tokens
  | [], _ => ⟨_, .none, .nil⟩
  | item :: rest, readable => by
      obtain ⟨tokens, printed, written⟩ := item.written_shown readable.1
      obtain ⟨others, printedRest, writtenRest⟩ := written_shownItems rest readable.2
      cases rest with
      | nil => exact ⟨tokens, .one printed, by simpa [Value.shownItems] using written⟩
      | cons next rest =>
          have joined := written.join (c := ',') writtenRest.blank (by decide) rfl
          refine ⟨_, .more printed printedRest, ?_⟩
          rw [Value.shownItems, Value.shownItems, String.intercalate_cons_cons, String.toList_append,
            String.toList_append, List.append_assoc]
          exact joined
termination_by structural items => items

theorem written_shownEntries : (entries : List (String × Value)) → ReadableEntries entries →
    ∃ tokens, Code.PrintsEntries (literalEntries entries) tokens ∧
      Code.Written (", ".intercalate (Value.shownEntries entries)).toList tokens
  | [], _ => ⟨_, .none, .nil⟩
  | (key, value) :: rest, readable => by
      obtain ⟨tokens, printed, written⟩ := value.written_shown readable.2.1
      have entry := written_entry readable.1 written
      obtain ⟨others, printedRest, writtenRest⟩ := written_shownEntries rest readable.2.2
      cases rest with
      | nil => exact ⟨_, .one (.string key) printed, by simpa [Value.shownEntries] using entry⟩
      | cons next rest =>
          have joined := entry.join (c := ',') writtenRest.blank (by decide) rfl
          refine ⟨_, .more (.string key) printed printedRest, ?_⟩
          rw [Value.shownEntries, Value.shownEntries, String.intercalate_cons_cons,
            String.toList_append, String.toList_append, List.append_assoc]
          exact joined
termination_by structural entries => entries

end

end Reading

/-- The tokens of a printed program make up that program, up to places. -/
theorem Code.complete?_of_prints {program : Program} {tokens : List Located}
    (printed : program.Prints (tokens.map Located.token)) :
    ∃ read, ParseState.initial.complete? tokens = some read ∧ read.unplaced = program.unplaced := by
  obtain ⟨state, ran, read, same, finishes⟩ :=
    ParseState.run_of_reads (ParseState.reads_printsBody printed [] [] 0)
  refine ⟨read, ParseState.complete?_eq_some.mpr
    ⟨state, ran, ParseState.finish_eq_ok_iff.mpr finishes⟩, ?_⟩
  rw [Program.unplaced_eq_map, Program.unplaced_eq_map, same]

theorem parse_binding {value : Value} (readable : value.Readable) :
    ∃ program, Code.Program.parse ("x = " ++ value.shown true) = .ok program ∧
      program.unplaced = Code.Program.unplaced [.assign "x" value.literal ⟨0, 0⟩] := by
  obtain ⟨tokens, printed, written⟩ := value.written_shown readable
  have name : Code.LexState.run 0 (.initial 0) "x = ".toList =
      .ok ⟨[⟨.assign, ⟨2, 3⟩⟩, ⟨.name "x", ⟨0, 1⟩⟩], 0, 4, .between⟩ := rfl
  obtain ⟨state, ran, has⟩ := written [⟨.assign, ⟨2, 3⟩⟩, ⟨.name "x", ⟨0, 1⟩⟩] 0 4
  obtain ⟨settled, ended, read⟩ := has.ended
  have lexed : Code.tokenize 0 ("x = ".toList ++ (value.shown true).toList) = .ok settled :=
    Code.tokenize_eq_ok_iff.mpr ⟨state, foldlM_append_eq_ok.mpr ⟨_, name, ran⟩, ended⟩
  have whole : Code.Program.Prints [.assign "x" value.literal ⟨0, 0⟩]
      (settled.map Code.Located.token) := by
    rw [read]
    exact .one (.assign "x" ⟨0, 0⟩ printed)
  obtain ⟨program, complete, same⟩ := Code.complete?_of_prints whole
  refine ⟨program, ?_, same⟩
  rw [Code.Program.parse, String.toList_append]
  exact Code.ofChars_eq_ok_iff.mpr ⟨settled, lexed, complete⟩

/-- What a value is shown as inside of a container, given to a variable, gives it that value. -/
theorem interpret_shown {value : Value} (readable : value.Readable) (shallow : value.nesting ≤ 255)
    (host : Host) (scope : Scope) :
    interpret host ("x = " ++ value.shown true) scope = ⟨.ok (), scope.set "x" value, "", []⟩ ∧
      value.equal value = true := by
  refine ⟨?_, value.equal_self readable⟩
  obtain ⟨program, parsed, same⟩ := parse_binding readable
  have admitted : Code.Setting.Admits ⟨some maxDepth, host⟩ (1 + value.nesting) := by
    intro limit is
    cases is
    rw [maxDepth]
    omega
  have ran : Code.Program.run ⟨some maxDepth, host⟩ [.assign "x" value.literal ⟨0, 0⟩]
      ⟨scope, "", []⟩ = (.ok (), ⟨scope.set "x" value, "", []⟩) := by
    have evaluated := value.eval_literal 1 readable admitted
    rw [Code.Program.run, Code.within_zero, Code.execAll, Code.Statement.exec, evaluated]
    rfl
  have unplaced := interpret_unplaced parsed host scope
  rw [same, Code.Program.run_unplaced, ran] at unplaced
  cases came : interpret host ("x = " ++ value.shown true) scope with
  | mk result reached output journal =>
      rw [came] at unplaced
      cases result with
      | error error => cases unplaced
      | ok _ =>
          cases unplaced
          rfl

/-- A map in which a quote, a backslash and a brace stand in a string. -/
theorem interpret_shown_map :
    interpret .none "x = \x7b\"a\": [\"\\\\ \\\" \x7d\", none], \"b\": true\x7d" .empty =
        ⟨.ok (), ⟨[("x", .map [("a", .list [.string "\\ \" \x7d", .none]), ("b", .boolean true)])],
          0⟩, "", []⟩ ∧
      Value.equal (.map [("a", .list [.string "\\ \" \x7d", .none]), ("b", .boolean true)])
        (.map [("a", .list [.string "\\ \" \x7d", .none]), ("b", .boolean true)]) = true := by
  have readable : Value.Readable
      (.map [("a", .list [.string "\\ \" \x7d", .none]), ("b", .boolean true)]) := by
    have bare : '\n' ∉ "\\ \" \x7d".toList := by decide
    exact ⟨by decide, ⟨by decide, by decide, by decide⟩, ⟨bare, trivial, trivial⟩,
      ⟨by decide, by decide, by decide⟩, trivial, trivial⟩
  have text : "x = " ++ Value.shown true
      (.map [("a", .list [.string "\\ \" \x7d", .none]), ("b", .boolean true)]) =
        "x = \x7b\"a\": [\"\\\\ \\\" \x7d\", none], \"b\": true\x7d" := by decide +kernel
  rw [← text]
  exact interpret_shown readable (by decide) .none .empty

end LiteratePages
