import LiteratePages.Proofs.Template.Scanning
import LiteratePages.Proofs.Template.Substitution

namespace LiteratePages

namespace Body

/-- The first body with the second one behind it. -/
def join (first second : Body) : Body :=
  match second.holes with
  | [] => ⟨first.holes, first.after ++ second.after⟩
  | hole :: rest =>
      ⟨first.holes ++ ⟨first.after ++ hole.before, hole.code⟩ :: rest, second.after⟩

theorem join_cons (hole : Hole) (holes : List Hole) (after : List Char) (second : Body) :
    join ⟨hole :: holes, after⟩ second =
      ⟨hole :: (join ⟨holes, after⟩ second).holes, (join ⟨holes, after⟩ second).after⟩ := by
  unfold join
  cases second.holes <;> rfl

/-- The same with more text before; it stands latest character first. -/
def Scan.behind (earlier : List Char) : Scan → Scan
  | .text before => .text (before ++ earlier)
  | .oneBrace before => .oneBrace (before ++ earlier)
  | .opened before => .opened (before ++ earlier)
  | .inside before code => .inside (before ++ earlier) code
  | .closing before code => .closing (before ++ earlier) code

theorem scan_behind (earlier : List Char) (state : Scan) (text : List Char) :
    scan (state.behind earlier) text = join ⟨[], earlier.reverse⟩ (scan state text) := by
  induction text generalizing state with
  | nil => cases state <;> simp [scan, join, Scan.behind, Scan.plain]
  | cons c rest ih =>
      cases state with
      | text before =>
          simp only [Scan.behind, scan]
          split
          · exact ih (.oneBrace before)
          · exact ih (.text (c :: before))
      | oneBrace before =>
          simp only [Scan.behind, scan]
          split
          · exact ih (.opened before)
          · exact ih (.text (c :: '\x7b' :: before))
      | opened before => exact ih (.inside before [c])
      | inside before code =>
          simp only [Scan.behind, scan]
          split
          · exact ih (.closing before code)
          · exact ih (.inside before (c :: code))
      | closing before code =>
          simp only [Scan.behind, scan]
          split
          · simp [join]
          · exact ih (.inside before (c :: '\x7d' :: code))

/-- A brace that another character follows opens nothing. -/
theorem scan_oneBrace_cons (passed rest : List Char) {c : Char} (other : c ≠ '\x7b') :
    scan (.oneBrace passed) (c :: rest) = scan (.text ('\x7b' :: passed)) (c :: rest) := by
  rw [scan, scan, if_neg other, if_neg other]

theorem scan_plain {state : Scan} {text : List Char} (unopened : ¬ openingPair <:+: state.plain)
    (apart : state.plain.getLast? ≠ some '\x7b' ∨ text.head? ≠ some '\x7b') :
    scan state text = join ⟨[], state.plain⟩ (ofChars text) := by
  cases state with
  | text before => exact scan_behind before (.text []) text
  | oneBrace before =>
      cases text with
      | nil => simp [scan, ofChars, join, Scan.plain]
      | cons c rest =>
          have other : c ≠ '\x7b' := by simpa [Scan.plain] using apart
          rw [scan_oneBrace_cons before rest other, Scan.plain, ← List.reverse_cons]
          exact scan_behind ('\x7b' :: before) (.text []) (c :: rest)
  | opened before => exact absurd (List.suffix_append ..).isInfix unopened
  | inside before code =>
      exact absurd ⟨before.reverse, code.reverse, rfl⟩ unopened
  | closing before code =>
      exact absurd ⟨before.reverse, code.reverse ++ ['\x7d'], by simp [Scan.plain, openingPair]⟩
        unopened

/-- A character is read whatever follows it, and may complete an expression. -/
theorem scan_cons (state : Scan) (c : Char) :
    (∃ next, ∀ rest, scan state (c :: rest) = scan next rest) ∨
      ∃ before code, state = .closing before code ∧ c = '\x7d' := by
  cases state with
  | text before =>
      by_cases brace : c = '\x7b'
      · exact .inl ⟨.oneBrace before, fun rest => by rw [scan, if_pos brace]⟩
      · exact .inl ⟨.text (c :: before), fun rest => by rw [scan, if_neg brace]⟩
  | oneBrace before =>
      by_cases brace : c = '\x7b'
      · exact .inl ⟨.opened before, fun rest => by rw [scan, if_pos brace]⟩
      · exact .inl ⟨.text (c :: '\x7b' :: before), fun rest => by rw [scan, if_neg brace]⟩
  | opened before => exact .inl ⟨.inside before [c], fun rest => rfl⟩
  | inside before code =>
      by_cases brace : c = '\x7d'
      · exact .inl ⟨.closing before code, fun rest => by rw [scan, if_pos brace]⟩
      · exact .inl ⟨.inside before (c :: code), fun rest => by rw [scan, if_neg brace]⟩
  | closing before code =>
      by_cases brace : c = '\x7d'
      · exact .inr ⟨before, code, rfl, brace⟩
      · exact .inl ⟨.inside before (c :: '\x7d' :: code), fun rest => by rw [scan, if_neg brace]⟩

theorem scan_append {state : Scan} {first second : List Char}
    (unopened : ¬ openingPair <:+: (scan state first).after)
    (apart : (scan state first).after.getLast? ≠ some '\x7b' ∨ second.head? ≠ some '\x7b') :
    scan state (first ++ second) = join (scan state first) (ofChars second) := by
  induction first generalizing state with
  | nil => exact scan_plain unopened apart
  | cons c rest ih =>
      rcases scan_cons state c with ⟨next, reads⟩ | ⟨before, code, rfl, rfl⟩
      · rw [reads] at unopened apart
        rw [List.cons_append, reads, reads, ih unopened apart]
      · have others : scan (.text []) (rest ++ second) = _ := ih unopened apart
        rw [List.cons_append, scan, if_pos rfl, others, scan, if_pos rfl, join_cons]

/-- Where the first text leaves nothing open and no pair is cut, the expressions of both texts are
those of the whole. -/
theorem ofChars_append {first second : List Char}
    (unopened : ¬ openingPair <:+: (ofChars first).after)
    (apart : first.getLast? ≠ some '\x7b' ∨ second.head? ≠ some '\x7b') :
    ofChars (first ++ second) = join (ofChars first) (ofChars second) := by
  refine scan_append unopened (apart.imp_left fun ended final => ended ?_)
  have some : (ofChars first).after ≠ [] := List.ne_nil_of_mem (List.mem_of_getLast? final)
  rw [← toChars_ofChars first, toChars, List.getLast?_append_of_ne_nil _ some]
  exact final

end Body

/-- The error when `count` more expressions come before the one that failed. -/
def PageError.delayed (count : Nat) : PageError → PageError
  | .expression origin index code error => .expression origin (count + index) code error
  | other => other

namespace Rendered

/-- What comes of two texts one after the other. Nothing of the second runs if the first fails. -/
def join (first second : Rendered) : Rendered :=
  match first with
  | (.ok text, journal) => (second.1.map (text ++ ·), journal ++ second.2)
  | (.error error, journal) => (.error error, journal)

theorem join_assoc (first second third : Rendered) :
    (first.join second).join third = first.join (second.join third) := by
  obtain ⟨result, journal⟩ := first
  obtain ⟨other, others⟩ := second
  obtain ⟨last, more⟩ := third
  cases result <;> cases other <;> cases last <;> simp [join, Except.map, String.append_assoc]

def delayed (count : Nat) (rendered : Rendered) : Rendered :=
  (rendered.1.mapError (PageError.delayed count), rendered.2)

theorem delayed_join (count : Nat) (first second : Rendered) :
    (first.join second).delayed count = (first.delayed count).join (second.delayed count) := by
  obtain ⟨result, journal⟩ := first
  obtain ⟨other, others⟩ := second
  cases result <;> cases other <;> rfl

end Rendered

section

variable (executor : Executor) (origin : String) (data : Metadata)

/-- What an expression renders to, with the text before it. -/
def renderHole (index : Nat) (hole : Hole) : Rendered :=
  ((evaluateHole executor origin data index hole).1.map (String.ofList hole.before ++ ·),
    (evaluateHole executor origin data index hole).2)

theorem fillHoles_cons (after : List Char) (index : Nat) (hole : Hole) (rest : List Hole) :
    fillHoles executor origin data after index (hole :: rest) =
      (renderHole executor origin data index hole).join
        (fillHoles executor origin data after (index + 1) rest) := by
  rw [fillHoles, renderHole]
  cases evaluateHole executor origin data index hole with
  | mk result journal => cases result <;> rfl

theorem renderHole_behind (text : List Char) (index : Nat) (hole : Hole) :
    renderHole executor origin data index ⟨text ++ hole.before, hole.code⟩ =
      Rendered.join (.ok (String.ofList text), [])
        (renderHole executor origin data index hole) := by
  have same : evaluateHole executor origin data index ⟨text ++ hole.before, hole.code⟩ =
      evaluateHole executor origin data index hole := rfl
  rw [renderHole, renderHole, same]
  cases evaluateHole executor origin data index hole with
  | mk result journal =>
      cases result <;> simp [Rendered.join, Except.map, String.ofList_append, String.append_assoc]

theorem fillHoles_join (index : Nat) (first second : Body) :
    fillHoles executor origin data (first.join second).after index (first.join second).holes =
      Rendered.join (fillHoles executor origin data first.after index first.holes)
        (fillHoles executor origin data second.after (first.holes.length + index)
          second.holes) := by
  obtain ⟨holes, after⟩ := first
  obtain ⟨others, last⟩ := second
  induction holes generalizing index with
  | nil =>
      cases others with
      | nil => simp [Body.join, fillHoles, Rendered.join, Except.map, String.ofList_append]
      | cons hole rest =>
          simp only [Body.join, List.nil_append, List.length_nil, Nat.zero_add]
          rw [fillHoles_cons, fillHoles_cons, renderHole_behind, Rendered.join_assoc, fillHoles]
  | cons hole rest ih =>
      have later : (hole :: rest).length + index = rest.length + (index + 1) := by
        rw [List.length_cons]
        omega
      rw [Body.join_cons, fillHoles_cons, fillHoles_cons, ih, Rendered.join_assoc, later]

theorem renderHole_delayed (count index : Nat) (hole : Hole) :
    renderHole executor origin data (count + index) hole =
      (renderHole executor origin data index hole).delayed count := by
  unfold renderHole evaluateHole
  dsimp only
  cases (executor (String.ofList (Text.dedent hole.code)) (expressionScope data)).result <;> rfl

theorem fillHoles_delayed (after : List Char) (count index : Nat) (holes : List Hole) :
    fillHoles executor origin data after (count + index) holes =
      (fillHoles executor origin data after index holes).delayed count := by
  induction holes generalizing index with
  | nil => rfl
  | cons hole rest ih =>
      rw [fillHoles_cons, fillHoles_cons, Rendered.delayed_join, renderHole_delayed, Nat.add_assoc,
        ih]

end

theorem Body.length_rangesFrom (start : Nat) (holes : List Hole) :
    (rangesFrom start holes).length = holes.length := by
  induction holes generalizing start with
  | nil => rfl
  | cons hole rest ih => rw [rangesFrom, List.length_cons, List.length_cons, ih]

theorem fill_append (executor : Executor) (origin : String) (data : Metadata)
    {first second : String} (unopened : ¬ openingPair <:+: (Body.ofChars first.toList).after)
    (apart : first.toList.getLast? ≠ some '\x7b' ∨ second.toList.head? ≠ some '\x7b') :
    fill executor origin (first ++ second) data = (fill executor origin first data).join
      ((fill executor origin second data).delayed (expressionRanges first).length) := by
  have joined := fillHoles_join executor origin data 0 (Body.ofChars first.toList)
    (Body.ofChars second.toList)
  rw [fillHoles_delayed, ← Body.length_rangesFrom 0, ← Body.ofChars_append unopened apart,
    ← String.toList_append] at joined
  exact joined

/-- Two texts put together render to what they render to one after the other, where the text behind
the last expression of the first opens nothing and no pair of braces stands across the cut. The
expressions of the second run after those of the first and are counted after them. -/
theorem renderText_append (engine : Engine) (data : Metadata) {first second : String}
    (unopened : ∀ after, (gaps first).getLast? = some after → ¬ openingPair <:+: after.toList)
    (apart : first.toList.getLast? ≠ some '\x7b' ∨ second.toList.head? ≠ some '\x7b') :
    (∀ error journal, engine.renderText first data = (.error error, journal) →
      engine.renderText (first ++ second) data = (.error error, journal)) ∧
    ∀ text journal, engine.renderText first data = (.ok text, journal) →
      (∀ more others, engine.renderText second data = (.ok more, others) →
        engine.renderText (first ++ second) data = (.ok (text ++ more), journal ++ others)) ∧
      ∀ error others, engine.renderText second data = (.error error, others) →
        ∃ index code cause, error = .expression "<string>" index code cause ∧
          engine.renderText (first ++ second) data =
            (.error (.expression "<string>" ((expressionRanges first).length + index) code cause),
              journal ++ others) := by
  have last : (gaps first).getLast? =
      some (String.ofList (Body.ofChars first.toList).after) := by
    rw [gaps_eq, List.getLast?_concat]
  have closed : ¬ openingPair <:+: (Body.ofChars first.toList).after := by
    simpa using unopened _ last
  have whole : engine.renderText (first ++ second) data =
      Rendered.join (engine.renderText first data)
        (Rendered.delayed (expressionRanges first).length (engine.renderText second data)) :=
    fill_append _ "<string>" data closed apart
  refine ⟨fun error journal failed => ?_, fun text journal rendered => ⟨?_, ?_⟩⟩
  · rw [whole, failed, Rendered.join]
  · intro more others renderedMore
    rw [whole, rendered, renderedMore]
    rfl
  · intro error others failed
    rcases filled_fill (engine.executor (templateHost engine.render)) "<string>" second data with
      ⟨shown, _, fine⟩ | ⟨before, code, after, cause, _, _, _, failure⟩
    · cases failed.symm.trans fine
    · obtain ⟨rfl, rfl⟩ : error = _ ∧ others = _ := by simpa using failed.symm.trans failure
      refine ⟨_, code, cause, rfl, ?_⟩
      rw [whole, rendered, failed]
      rfl

/-- The first text ends in a brace, and the second one fails at its second expression. -/
theorem renderText_append_failing :
    let cause : ExecutionError := .runtime ⟨.divisionByZero, none⟩
    let engine : Engine := ⟨.none, "lit", 1, fun _ code scope =>
      ⟨if code = "b" then .error cause else .ok (), scope, code, []⟩⟩
    engine.renderText ("é \x7b\x7ba\x7d\x7d \x7b" ++ "\n\x7b\x7b\x7b\x7d\x7d\x7b\x7bb\x7d\x7d") [] =
      (.error (.expression "<string>" 2 "b" cause), [.ran "a", .ran "\x7b", .ran "b"]) := by
  intro cause engine
  have dedented : String.ofList (Text.dedent "a".toList) = "a" ∧
      String.ofList (Text.dedent "\x7b".toList) = "\x7b" ∧
      String.ofList (Text.dedent "b".toList) = "b" := by decide +kernel
  have first : engine.renderText "é \x7b\x7ba\x7d\x7d \x7b" [] = (.ok "é a \x7b", [.ran "a"]) := by
    have body : Body.ofChars "é \x7b\x7ba\x7d\x7d \x7b".toList =
        ⟨[⟨"é ".toList, "a".toList⟩], " \x7b".toList⟩ := by decide +kernel
    have shown : "é " ++ withoutFinalNewline "a" ++ " \x7b" = "é a \x7b" := by decide +kernel
    simp only [Engine.renderText, fill, body]
    simp only [fillHoles, evaluateHole, engine, dedented, String.ofList_toList]
    simp [Except.map, shown]
  have second : engine.renderText "\n\x7b\x7b\x7b\x7d\x7d\x7b\x7bb\x7d\x7d" [] =
      (.error (.expression "<string>" 1 "b" cause), [.ran "\x7b", .ran "b"]) := by
    have body : Body.ofChars "\n\x7b\x7b\x7b\x7d\x7d\x7b\x7bb\x7d\x7d".toList =
        ⟨[⟨"\n".toList, "\x7b".toList⟩, ⟨[], "b".toList⟩], []⟩ := by decide +kernel
    simp only [Engine.renderText, fill, body]
    simp only [fillHoles, evaluateHole, engine, dedented]
    simp [Except.map]
  have unopened : ∀ after, (gaps "é \x7b\x7ba\x7d\x7d \x7b").getLast? = some after →
      ¬ openingPair <:+: after.toList := by decide +kernel
  have apart : "\n\x7b\x7b\x7b\x7d\x7d\x7b\x7bb\x7d\x7d".toList.head? ≠ some '\x7b' := by
    decide +kernel
  have joined := renderText_append engine [] unopened (.inr apart)
  obtain ⟨index, code, reason, same, whole⟩ := (joined.2 _ _ first).2 _ _ second
  obtain ⟨rfl, rfl, rfl⟩ : index = 1 ∧ code = "b" ∧ reason = cause := by
    simpa [eq_comm] using same
  have one : (expressionRanges "é \x7b\x7ba\x7d\x7d \x7b").length = 1 := by decide +kernel
  rw [whole, one]
  rfl

end LiteratePages
