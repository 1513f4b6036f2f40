import LiteratePages.Proofs.Page.CodeRuns
import LiteratePages.Proofs.Text.LineEnds

namespace LiteratePages

def plainEnds (text : String) : String := String.ofList (Text.plainEnds text.toList)

theorem isEmpty_trim (text : String) : (trim text).isEmpty = isBlankText text := by
  rw [Bool.eq_iff_iff, String.isEmpty_iff, trim, String.ofList_eq_empty_iff, isBlankText,
    Text.allBlank_iff_trim_eq_nil]

theorem isBlankText_plainEnds (text : String) : isBlankText (plainEnds text) = isBlankText text := by
  rw [isBlankText, plainEnds, String.toList_ofList, Text.allBlank_plainEnds, isBlankText]

theorem toList_joinLines (lines : List String) :
    (joinLines lines).toList = Text.joinLines (lines.map String.toList) := by
  simp [joinLines, Text.joinLines]

/-- Up to blanks at its ends, a trimmed text that is read as lines and joined again is the text with
plain line ends. -/
theorem trim_joinLines_sourceLines (text : String) :
    trim (joinLines (sourceLines (trim text))) = trim (plainEnds text) := by
  have lines : (sourceLines (trim text)).map String.toList =
      Text.sourceLines (Text.trim text.toList) := by
    simp [sourceLines, trim, Function.comp_def]
  rw [trim, toList_joinLines, lines, Text.trim_joinLines_sourceLines, Text.trim_plainEnds_trim,
    trim, plainEnds, String.toList_ofList]

/-- What was printed is shown as it would be shown itself, with plain line ends. -/
theorem render_stdout (printed : String) (start : Nat) :
    (Segment.stdout (trim printed) start).render = renderStdout (plainEnds printed) := by
  have content : (Segment.stdout (trim printed) start).render =
      renderStdout (joinLines (sourceLines (trim printed))) := by
    simp only [Segment.render, Segment.stdout, Segment.content, Segment.source]
  rw [content, renderStdout, trim_joinLines_sourceLines, renderStdout]

namespace Segment

/-- The lines of prose, each without the marker that it starts with. -/
def proseText (segment : Segment) : String :=
  joinLines (segment.lines.map fun line => String.ofList (line.toList.drop proseMarker.length))

/-- What a page shows for a segment, and for what was printed if it was run. -/
def blocks (segment : Segment) (printed : Option String) : List String :=
  match segment.kind, printed with
  | .prose, _ =>
      if isBlankText segment.proseText then [] else ["<p>\n" ++ trim segment.proseText ++ "\n</p>"]
  | .code, some printed =>
      renderCode segment.source ::
        if isBlankText printed then [] else [renderStdout (plainEnds printed)]
  | .code, none => [renderCode segment.source]
  | .listing, _ => [renderCode (joinLines (segment.lines.drop 1))]
  | .stdout, _ | .blank, _ | .noExecFlag, _ => []

theorem content_of_prose {segment : Segment} (kind : segment.kind = .prose)
    (shape : segment.kind.Shape segment.kinds) : segment.content = segment.proseText := by
  rw [kind] at shape
  simp only [content, kind, proseText]
  refine congrArg joinLines (List.map_congr_left fun line member => ?_)
  have prose : LineKind.ofLine line = .prose := shape.2 _ (List.mem_map_of_mem member)
  unfold LineKind.ofLine at prose
  split at prose
  · rename_i marked
    rw [unmarked, if_pos marked]
    rfl
  · split at prose
    · cases prose
    · split at prose <;> cases prose

/-- Of the fragments of code that was run those that are not empty are shown. -/
theorem filter_fragments_code {segment : Segment} (kind : segment.kind = .code)
    (printed : String) :
    (segment.fragments (some (stdout (trim printed) segment.start))).filter (!·.isEmpty) =
      (segment.blocks (some printed)).filter (!·.isEmpty) := by
  have code : segment.render = renderCode segment.source := by
    simp only [render, content, kind]
  have shown : segment.blocks (some printed) = renderCode segment.source ::
      if isBlankText printed then [] else [renderStdout (plainEnds printed)] := by
    simp only [blocks, kind]
  rw [shown, fragments, code, Option.map_some, Option.toList_some, render_stdout]
  split
  · rename_i blank
    have nothing : renderStdout (plainEnds printed) = "" := by
      rw [renderStdout, isEmpty_trim, isBlankText_plainEnds, if_pos blank]
    rw [nothing]
    simp [List.filter_cons]
  · rfl

/-- Of the fragment of a segment that is not run as much is shown. -/
theorem filter_fragments_other {segment : Segment} (kind : segment.kind ≠ .code)
    (shape : segment.kind.Shape segment.kinds) :
    (segment.fragments none).filter (!·.isEmpty) =
      (segment.blocks none).filter (!·.isEmpty) := by
  rw [fragments, Option.map_none, Option.toList_none]
  cases kinds : segment.kind with
  | prose =>
      have text := content_of_prose kinds shape
      simp only [render, blocks, kinds, text]
      rw [renderProse, isEmpty_trim]
      split
      · simp
      · rfl
  | code => exact absurd kinds kind
  | stdout =>
      rw [kinds] at shape
      exact shape.elim
  | listing => simp only [render, blocks, content, kinds]
  | noExecFlag | blank =>
      simp only [render, blocks, kinds]
      rfl

end Segment

/-- In a scope the code among the segments runs to its end, each in the scope that the one before it
left, down to the scope `final`. For each segment stands what it printed, if it is code. -/
inductive Ran (executor : Executor) : Scope → List Segment → List (Option String) → Scope → Prop
    where
  | done (scope : Scope) : Ran executor scope [] [] scope
  | code {scope final : Scope} {segment : Segment} {rest : List Segment}
      {printed : List (Option String)} (kind : segment.kind = .code)
      (ok : (executor segment.source scope).result = .ok ())
      (later : Ran executor (executor segment.source scope).scope rest printed final) :
      Ran executor scope (segment :: rest) (some (executor segment.source scope).output :: printed)
        final
  | other {scope final : Scope} {segment : Segment} {rest : List Segment}
      {printed : List (Option String)} (kind : segment.kind ≠ .code)
      (later : Ran executor scope rest printed final) :
      Ran executor scope (segment :: rest) (none :: printed) final

/-- What a page shows for its segments, in their order. -/
def pageBlocks (segments : List Segment) (printed : List (Option String)) : List String :=
  (segments.zip printed).flatMap fun (segment, printed) => segment.blocks printed

theorem pageBlocks_cons (segment : Segment) (rest : List Segment) (printed : Option String)
    (others : List (Option String)) :
    pageBlocks (segment :: rest) (printed :: others) =
      segment.blocks printed ++ pageBlocks rest others :=
  List.flatMap_cons

section

variable {executor : Executor} {scope reached final : Scope} {segments : List Segment}
  {printed : List (Option String)}

theorem renderSegments_of_ran (ran : Ran executor scope segments printed final)
    (shaped : ∀ segment ∈ segments, segment.kind.Shape segment.kinds) :
    (renderSegments executor scope segments).scope = final ∧
      ∃ fragments, (renderSegments executor scope segments).result = .ok fragments ∧
        fragments.filter (!·.isEmpty) = (pageBlocks segments printed).filter (!·.isEmpty) := by
  induction ran with
  | done scope => exact ⟨rfl, [], rfl, rfl⟩
  | code kind ok later ih =>
      obtain ⟨shape, others⟩ := List.forall_mem_cons.mp shaped
      obtain ⟨left, fragments, result, shown⟩ := ih others
      simp only [renderSegments, execute_of_ok kind ok, result]
      refine ⟨left, _, rfl, ?_⟩
      rw [List.filter_append, Segment.filter_fragments_code kind, shown, pageBlocks_cons,
        List.filter_append]
  | other kind later ih =>
      obtain ⟨shape, others⟩ := List.forall_mem_cons.mp shaped
      obtain ⟨left, fragments, result, shown⟩ := ih others
      simp only [renderSegments, execute_of_ne_code kind, result]
      refine ⟨left, _, rfl, ?_⟩
      rw [List.filter_append, Segment.filter_fragments_other kind shape, shown, pageBlocks_cons,
        List.filter_append]

/-- The code that fails ends the rendering. -/
theorem renderSegments_of_fails (ran : Ran executor scope segments printed reached)
    {segment : Segment} (kind : segment.kind = .code) {error : ExecutionError}
    (failed : (executor segment.source reached).result = .error error) (after : List Segment) :
    (renderSegments executor scope (segments ++ segment :: after)).result =
        .error (.execution segment.start segment.source error) ∧
      (renderSegments executor scope (segments ++ segment :: after)).scope =
        (executor segment.source reached).scope := by
  induction ran with
  | done scope => simp [renderSegments, execute_of_error kind failed]
  | code code ok later ih =>
      obtain ⟨result, left⟩ := ih failed
      simp [renderSegments, execute_of_ok code ok, result, left, Except.map]
  | other other later ih =>
      obtain ⟨result, left⟩ := ih failed
      simp [renderSegments, execute_of_ne_code other, result, left, Except.map]

/-- Either all code runs to its end or one segment of it is the first that fails. -/
theorem ran_or_fails (executor : Executor) (scope : Scope) (segments : List Segment) :
    (∃ printed final, Ran executor scope segments printed final) ∨
      ∃ before segment after printed reached error, segments = before ++ segment :: after ∧
        Ran executor scope before printed reached ∧ segment.kind = .code ∧
        (executor segment.source reached).result = .error error := by
  induction segments generalizing scope with
  | nil => exact .inl ⟨[], scope, .done scope⟩
  | cons segment rest ih =>
      by_cases kind : segment.kind = .code
      · cases outcome : (executor segment.source scope).result with
        | error error =>
            exact .inr ⟨[], segment, rest, [], scope, error, rfl, .done scope, kind, outcome⟩
        | ok _ =>
            obtain ⟨printed, final, ran⟩ | ⟨before, failing, after, printed, reached, error, rfl,
              ran, code, failed⟩ := ih (executor segment.source scope).scope
            · exact .inl ⟨_, final, .code kind outcome ran⟩
            · exact .inr ⟨segment :: before, failing, after, _, reached, error, rfl,
                .code kind outcome ran, code, failed⟩
      · obtain ⟨printed, final, ran⟩ | ⟨before, failing, after, printed, reached, error, rfl,
          ran, code, failed⟩ := ih scope
        · exact .inl ⟨_, final, .other kind ran⟩
        · exact .inr ⟨segment :: before, failing, after, _, reached, error, rfl,
            .other kind ran, code, failed⟩

end

/-- The segments of a document have the shapes of their kinds; none is of output. -/
theorem Document.shaped_of_ofLines {lines : List String} {document : Document}
    (parsed : Document.ofLines lines = .ok document) :
    ∀ segment ∈ document.segments, segment.kind.Shape segment.kinds := by
  have cut : Segmentation (lines.map Segment.withoutEnd) 1 (Segment.segments lines) :=
    Segment.segmentation_ofLines lines 1
  unfold Document.ofLines at parsed
  split at parsed
  · cases parsed
  · rename_i first rest found
    rw [found] at cut
    split at parsed
    · cases parsed
    · rename_i metadata prose taken
      cases parsed
      unfold splitMetadata at taken
      split at taken
      · cases taken
      · rename_i kind
        split at taken
        · cases taken
        · dsimp only at taken
          split at taken
          · cases taken
          · rename_i enough
            cases taken
            exact (cut.without (Decidable.of_not_not kind) (Nat.not_lt.mp enough)).shaped

/-- A document is rendered by running its code in order, each segment in the scope that the one
before it left. When all of it runs to its end, the page shows its segments in order, each segment of
code with what it printed right below; otherwise there is no page, and the error and the scope are
those of the first segment that fails. -/
theorem render_in_order {lines : List String} {document : Document}
    (parsed : Document.ofLines lines = .ok document) (executor : Executor) (scope : Scope) :
    (∀ printed final, Ran executor scope document.segments printed final →
      (document.render executor scope).result =
          .ok (joinLines ((pageBlocks document.segments printed).filter (!·.isEmpty))) ∧
        (document.render executor scope).scope = final) ∧
      (∀ before segment after printed reached error,
        document.segments = before ++ segment :: after →
        Ran executor scope before printed reached → segment.kind = .code →
        (executor segment.source reached).result = .error error →
        (document.render executor scope).result =
            .error (.execution segment.start segment.source error) ∧
          (document.render executor scope).scope = (executor segment.source reached).scope) ∧
      ((∃ printed final, Ran executor scope document.segments printed final) ∨
        ∃ before segment after printed reached error,
          document.segments = before ++ segment :: after ∧
          Ran executor scope before printed reached ∧ segment.kind = .code ∧
          (executor segment.source reached).result = .error error) := by
  refine ⟨?_, ?_, ran_or_fails executor scope document.segments⟩
  · intro printed final ran
    obtain ⟨left, fragments, result, shown⟩ :=
      renderSegments_of_ran ran (Document.shaped_of_ofLines parsed)
    refine ⟨?_, left⟩
    rw [Document.render, ← shown]
    dsimp only
    rw [result]
    rfl
  · intro before segment after printed reached error split ran kind failed
    obtain ⟨result, left⟩ := renderSegments_of_fails ran kind failed after
    rw [← split] at result left
    refine ⟨?_, left⟩
    rw [Document.render]
    dsimp only
    rw [result]
    rfl

/-- The code of the one page prints two lines; on the other page more code follows, and fails. -/
theorem render_in_order_two_pages :
    let executor : Executor := fun _ scope =>
      if scope.contains "x" then ⟨.error (.runtime ⟨.divisionByZero, none⟩), scope, "", []⟩
      else ⟨.ok (), scope.set "x" .none, " a\r\nb\n", []⟩
    (∃ document, Document.ofLines ["# \x7b\x7d", "# p ", "", "x", "", "#$", "y"] = .ok document ∧
      (document.render executor .empty).result =
        .ok "<p>\np\n</p>\n<pre>x</pre>\n<pre># stdout\na\nb\n</pre>\n<pre>y</pre>" ∧
      (document.render executor .empty).scope = Scope.empty.set "x" .none) ∧
      ∃ document, Document.ofLines ["# \x7b\x7d", "x", "# q", "z"] = .ok document ∧
        (document.render executor .empty).result =
          .error (.execution 4 "z" (.runtime ⟨.divisionByZero, none⟩)) ∧
        (document.render executor .empty).scope = Scope.empty.set "x" .none := by
  intro executor
  constructor
  · have parsed : Document.ofLines ["# \x7b\x7d", "# p ", "", "x", "", "#$", "y"] =
        .ok ⟨[], [⟨.prose, ["# p "], 2⟩, ⟨.blank, [""], 3⟩, ⟨.code, ["x", ""], 4⟩,
          ⟨.listing, ["#$", "y"], 6⟩]⟩ := rfl
    have ran : Ran executor .empty
        [⟨.prose, ["# p "], 2⟩, ⟨.blank, [""], 3⟩, ⟨.code, ["x", ""], 4⟩,
          ⟨.listing, ["#$", "y"], 6⟩] [none, none, some " a\r\nb\n", none]
        (Scope.empty.set "x" .none) :=
      .other (by decide) (.other (by decide) (.code rfl rfl (.other (by decide) (.done _))))
    obtain ⟨result, left⟩ := (render_in_order parsed executor .empty).1 _ _ ran
    refine ⟨_, parsed, result.trans (congrArg Except.ok ?_), left⟩
    decide +kernel
  · have parsed : Document.ofLines ["# \x7b\x7d", "x", "# q", "z"] =
        .ok ⟨[], [⟨.code, ["x"], 2⟩, ⟨.prose, ["# q"], 3⟩, ⟨.code, ["z"], 4⟩]⟩ := rfl
    have ran : Ran executor .empty [⟨.code, ["x"], 2⟩, ⟨.prose, ["# q"], 3⟩]
        [some " a\r\nb\n", none] (Scope.empty.set "x" .none) :=
      .code rfl rfl (.other (by decide) (.done _))
    exact ⟨_, parsed, (render_in_order parsed executor .empty).2.1 _ _ [] _ _ _ rfl ran rfl rfl⟩

end LiteratePages
