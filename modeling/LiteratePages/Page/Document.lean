import LiteratePages.Page.Error
import LiteratePages.Page.Fragment
import LiteratePages.Run.Execution

namespace LiteratePages

/-- A parsed source, of which nothing has run. -/
structure Document where
  metadata : Metadata
  segments : List Segment

/-- What came of running or rendering: a result or an error, the scope that is left, and the code
that ran on the way. -/
structure Outcome (α : Type) where
  result : Except PageError α
  scope : Scope
  journal : Journal

/-- The metadata at the start of a text of prose, and how many lines come before the one on which
its object ends. Only blanks may follow the object on that line. -/
def readMetadata (text : List Char) : Except Json.ReadError (Metadata × Nat) :=
  match Json.readObject text with
  | .error error => .error error
  | .ok (metadata, _, rest) =>
      let trailing := Text.trim (rest.takeWhile (· ≠ '\n'))
      if trailing.isEmpty then .ok (metadata, text.count '\n' - rest.count '\n')
      else .error ⟨.afterObject (String.ofList trailing), none⟩

/-- Takes the metadata off the front of the first segment. Prose on later lines stays. -/
def splitMetadata (first : Segment) : Except PageError (Metadata × List Segment) :=
  if first.kind ≠ .prose then .error (.missingMetadata first.kind first.start)
  else match readMetadata first.content.toList with
    | .error error => .error (.invalidMetadata first.start error)
    | .ok (metadata, before) =>
        let used := before + 1
        if first.lines.length < used then .error .misplacedMetadata
        else
          let remaining := first.lines.drop used
          .ok (metadata, if remaining.isEmpty then [] else [⟨.prose, remaining, first.start + used⟩])

namespace Document

def ofLines (lines : List String) : Except PageError Document :=
  match Segment.segments lines with
  | [] => .error .emptySource
  | first :: rest => match splitMetadata first with
      | .error error => .error error
      | .ok (metadata, prose) => .ok ⟨metadata, prose ++ rest⟩

def ofSource (source : String) : Except PageError Document := ofLines (sourceLines source)

end Document

/-- Runs a segment of code and gives what it printed as a segment. Others are not run. -/
def Segment.execute (executor : Executor) (scope : Scope) (segment : Segment) :
    Outcome (Option Segment) :=
  if segment.kind ≠ .code then ⟨.ok none, scope, []⟩
  else
    let code := segment.content
    let execution := executor code scope
    let result := match execution.result with
      | .ok () => .ok (some (Segment.stdout (trim execution.output) segment.start))
      | .error error => .error (.execution segment.start code error)
    ⟨result, execution.scope, .ran code :: execution.journal⟩

def Segment.fragments (segment : Segment) (printed : Option Segment) : List String :=
  segment.render :: (printed.map Segment.render).toList

/-- The fragments of segments in order, up to the first that fails. -/
def renderSegments (executor : Executor) (scope : Scope) : List Segment → Outcome (List String)
  | [] => ⟨.ok [], scope, []⟩
  | segment :: rest =>
      let first := segment.execute executor scope
      match first.result with
      | .error error => ⟨.error error, first.scope, first.journal⟩
      | .ok printed =>
          let others := renderSegments executor first.scope rest
          ⟨others.result.map (segment.fragments printed ++ ·), others.scope,
            first.journal ++ others.journal⟩

/-- The HTML of a document: the fragments that are not empty, each on lines of its own. -/
def Document.render (executor : Executor) (scope : Scope) (document : Document) : Outcome String :=
  let outcome := renderSegments executor scope document.segments
  { outcome with
    result := outcome.result.map fun fragments => joinLines (fragments.filter (!·.isEmpty)) }

def assemble (executor : Executor) (source : String) :
    Except PageError (String × Metadata) × Journal :=
  match Document.ofSource source with
  | .error error => (.error error, [])
  | .ok document =>
      let outcome := document.render executor .empty
      (outcome.result.map (·, document.metadata), outcome.journal)

end LiteratePages
