import LiteratePages.Proofs.Run.Counting
import LiteratePages.Template.Engine

/-!
Templates rendered beside one counter of those that are open, which all calls of an engine share.
A template is refused when the counter says that too many are open; otherwise the counter goes up
before its file is read and down when it has been rendered, however that ended.
-/
namespace LiteratePages

/-- How templates are rendered, by path and data. -/
abbrev Server := (path : String) → (data : Metadata) → Counting (Except PageError String)

/-- The host of expressions, in which templates are rendered by `server`. -/
def Server.host (server : Server) : CountedHost := fun name identity arguments =>
  if name = renderTemplateName then
    match templateArguments arguments with
    | .error fault => return (.error fault, "")
    | .ok (path, data) => do
        match ← server path data with
        | .ok text => return (.ok (.string text), "")
        | .error error =>
            let message := renderTemplateName ++ "(" ++ quoted path ++ "): " ++ error.message
            return (.error (.host message), "")
  else return ((Host.none name identity arguments).result, "")

section

variable (executor : CountedExecutor)

def Segment.executeCounted (scope : Scope) (segment : Segment) :
    Counting (Except PageError (Option Segment) × Scope) :=
  if segment.kind ≠ .code then return (.ok none, scope)
  else do
    let code := segment.content
    Counting.note (.ran code)
    let finished ← executor code scope
    let result := match finished.result with
      | .ok () => .ok (some (Segment.stdout (trim finished.output) segment.start))
      | .error error => .error (.execution segment.start code error)
    return (result, finished.scope)

def renderSegmentsCounted (scope : Scope) :
    List Segment → Counting (Except PageError (List String) × Scope)
  | [] => return (.ok [], scope)
  | segment :: rest => do
      match ← segment.executeCounted executor scope with
      | (.error error, scope) => return (.error error, scope)
      | (.ok printed, scope) =>
          let (others, scope) ← renderSegmentsCounted scope rest
          return (others.map (segment.fragments printed ++ ·), scope)

def assembleCounted (source : String) : Counting (Except PageError (String × Metadata)) :=
  match Document.ofSource source with
  | .error error => return .error error
  | .ok document => do
      let (result, _) ← renderSegmentsCounted executor .empty document.segments
      let result := result.map fun fragments => joinLines (fragments.filter (!·.isEmpty))
      return result.map (·, document.metadata)

def evaluateHoleCounted (origin : String) (data : Metadata) (index : Nat) (hole : Hole) :
    Counting (Except PageError String) := do
  let code := String.ofList (Text.dedent hole.code)
  Counting.note (.ran code)
  let finished ← executor code (expressionScope data)
  return match finished.result with
    | .ok () => .ok (withoutFinalNewline finished.output)
    | .error error => .error (.expression origin index code error)

def fillHolesCounted (origin : String) (data : Metadata) (after : List Char) :
    (index : Nat) → List Hole → Counting (Except PageError String)
  | _, [] => return .ok (String.ofList after)
  | index, hole :: rest => do
      match ← evaluateHoleCounted executor origin data index hole with
      | .error error => return .error error
      | .ok printed =>
          let others ← fillHolesCounted origin data after (index + 1) rest
          return others.map fun others => String.ofList hole.before ++ printed ++ others

def fillCounted (origin text : String) (data : Metadata) : Counting (Except PageError String) :=
  let body := Body.ofChars text.toList
  fillHolesCounted executor origin data body.after 0 body.holes

end

namespace Engine

def templateBodyCounted (engine : Engine) (executor : CountedExecutor) (path source : String)
    (data : Metadata) : Counting (Except PageError (String × Metadata)) :=
  if engine.isLiterate path then do
    let result ← assembleCounted executor source
    return result.map fun (body, metadata) => (body, Entries.insertAll data metadata)
  else return .ok (source, data)

def fillFileCounted (engine : Engine) (executor : CountedExecutor) (path : String)
    (data : Metadata) : Counting (Except PageError String) :=
  match engine.files.read path with
  | .error fault => return .error (.unreadable path fault)
  | .ok source => do
      match ← engine.templateBodyCounted executor path source data with
      | .error error => return .error error
      | .ok (body, data) => fillCounted executor path body data

def renderFileCounted (engine : Engine) (executor : CountedExecutor) (path : String)
    (data : Metadata) : Counting (Except PageError String) := do
  Counting.note (.read path)
  engine.fillFileCounted executor path data

/-- One call. The templates that it renders inside are rendered by `server`, and their code is run
by the interpreter. -/
def serve (engine : Engine) (server : Server) : Server := fun path data => do
  let depth ← Counting.counter
  if engine.maxNesting ≤ depth then
    Counting.note (.refused path)
    return .error (.nestingTooDeep engine.maxNesting path)
  else
    Counting.setCounter (depth + 1)
    Counting.note (.entered path)
    let result ← engine.renderFileCounted (interpretCounted server.host) path data
    let reached ← Counting.counter
    Counting.setCounter (reached - 1)
    Counting.note (.left path)
    return result

end Engine

section

variable {bound count : Nat} {executor : Executor} {counted : CountedExecutor}
  (agrees : ExecutorFollows bound count executor counted)

include agrees

theorem follows_execute (scope : Scope) (segment : Segment) :
    Follows bound count
      ((segment.execute executor scope).result, (segment.execute executor scope).scope)
      (segment.execute executor scope).journal (segment.executeCounted counted scope) := by
  unfold Segment.execute Segment.executeCounted
  split
  · exact follows_pure _
  · apply (follows_ran segment.content).bind
    exact (agrees segment.content scope).map _

theorem follows_renderSegments (scope : Scope) (segments : List Segment) :
    Follows bound count
      ((renderSegments executor scope segments).result,
        (renderSegments executor scope segments).scope)
      (renderSegments executor scope segments).journal
      (renderSegmentsCounted counted scope segments) := by
  induction segments generalizing scope with
  | nil => exact follows_pure _
  | cons segment rest ih =>
      have first := follows_execute agrees scope segment
      cases ran : (segment.execute executor scope).result with
      | error error =>
          rw [ran] at first
          simp only [renderSegments, ran]
          exact first.quietly (follows_pure _)
      | ok printed =>
          rw [ran] at first
          simp only [renderSegments, ran]
          apply first.bind
          exact (ih (segment.execute executor scope).scope).map _

theorem follows_assemble (source : String) :
    Follows bound count (assemble executor source).1 (assemble executor source).2
      (assembleCounted counted source) := by
  unfold assemble assembleCounted
  cases Document.ofSource source with
  | error error => exact follows_pure _
  | ok document => exact (follows_renderSegments agrees .empty document.segments).map _

theorem follows_evaluateHole (origin : String) (data : Metadata) (index : Nat) (hole : Hole) :
    Follows bound count (evaluateHole executor origin data index hole).1
      (evaluateHole executor origin data index hole).2
      (evaluateHoleCounted counted origin data index hole) := by
  apply (follows_ran (String.ofList (Text.dedent hole.code))).bind
  exact (agrees (String.ofList (Text.dedent hole.code)) (expressionScope data)).map _

theorem follows_fillHoles (origin : String) (data : Metadata) (after : List Char) (index : Nat)
    (holes : List Hole) :
    Follows bound count (fillHoles executor origin data after index holes).1
      (fillHoles executor origin data after index holes).2
      (fillHolesCounted counted origin data after index holes) := by
  induction holes generalizing index with
  | nil => exact follows_pure _
  | cons hole rest ih =>
      have first := follows_evaluateHole agrees origin data index hole
      unfold fillHoles fillHolesCounted
      cases evaluated : evaluateHole executor origin data index hole with
      | mk result journal =>
          rw [evaluated] at first
          cases result with
          | error error =>
              exact first.quietly (follows_pure _)
          | ok printed =>
              apply first.bind
              exact (ih (index + 1)).map _

theorem follows_fill (origin text : String) (data : Metadata) :
    Follows bound count (fill executor origin text data).1 (fill executor origin text data).2
      (fillCounted counted origin text data) :=
  follows_fillHoles agrees origin data _ 0 _

theorem follows_templateBody (engine : Engine) (path source : String) (data : Metadata) :
    Follows bound count (engine.templateBody executor path source data).1
      (engine.templateBody executor path source data).2
      (engine.templateBodyCounted counted path source data) := by
  unfold Engine.templateBody Engine.templateBodyCounted
  split
  · exact (follows_assemble agrees source).map _
  · exact follows_pure _

theorem follows_fillFile (engine : Engine) (path : String) (data : Metadata) :
    ∃ journal, (engine.renderFile executor path data).2 = .read path :: journal ∧
      Follows bound count (engine.renderFile executor path data).1 journal
        (engine.fillFileCounted counted path data) := by
  unfold Engine.renderFile Engine.fillFileCounted
  cases engine.files.read path with
  | error fault => exact ⟨[], rfl, follows_pure _⟩
  | ok source =>
      have first := follows_templateBody agrees engine path source data
      dsimp only
      cases assembled : engine.templateBody executor path source data with
      | mk body journal =>
          rw [assembled] at first
          cases body with
          | error error =>
              exact ⟨journal, rfl, first.quietly (follows_pure _)⟩
          | ok body => exact ⟨_, rfl, first.bind (follows_fill agrees path body.1 body.2)⟩

end

section

variable {engine : Engine} {server : Server} {count : Nat}

theorem hostFollows_templateHost {bound : Nat} {render : String → Metadata → Rendered}
    (agrees : ∀ path data, Follows bound count (render path data).1 (render path data).2
      (server path data)) :
    HostFollows bound count (templateHost render) server.host := by
  intro name identity arguments
  unfold templateHost Server.host
  split
  · cases templateArguments arguments with
    | error fault => exact follows_pure _
    | ok given =>
        obtain ⟨path, data⟩ := given
        have called := agrees path data
        dsimp only
        cases rendered : render path data with
        | mk result journal =>
            rw [rendered] at called
            cases result <;> exact called.quietly (follows_pure _)
  · exact follows_pure _

theorem serve_full (full : engine.maxNesting ≤ count) (path : String) (data : Metadata) :
    engine.serve server path data count =
      (.error (.nestingTooDeep engine.maxNesting path), [⟨.refused path, count⟩], count) := by
  simp [Engine.serve, full]

theorem serve_room (room : count < engine.maxNesting) {path : String} {data : Metadata}
    {result : Except PageError String} {moments : List Moment}
    (filled : engine.fillFileCounted (interpretCounted server.host) path data (count + 1) =
      (result, moments, count + 1)) :
    engine.serve server path data count =
      (result, ⟨.entered path, count + 1⟩ :: ⟨.read path, count + 1⟩ ::
        moments ++ [⟨.left path, count⟩], count) := by
  have below : ¬ engine.maxNesting ≤ count := Nat.not_le_of_lt room
  simp [Engine.serve, Engine.renderFileCounted, below, filled]

end
end LiteratePages
