import LiteratePages.Page.Segment
import LiteratePages.Json.Reader
import LiteratePages.Run.Fault
import LiteratePages.FileSystem

namespace LiteratePages

inductive PageError where
  | emptySource
  | missingMetadata (found : SegmentKind) (line : Nat)
  | invalidMetadata (line : Nat) (error : Json.ReadError)
  /-- A metadata object that ends on a line its source does not have, because a line holds line
  feeds of its own. -/
  | misplacedMetadata
  | execution (line : Nat) (code : String) (error : ExecutionError)
  | expression (origin : String) (index : Nat) (code : String) (error : ExecutionError)
  /-- A template that would be one too many inside others. -/
  | nestingTooDeep (limit : Nat) (path : String)
  | unreadable (path : String) (fault : FileFault)

namespace PageError

def headline : PageError → String
  | .emptySource => "empty source: a literate file must start with a metadata block"
  | .missingMetadata found line =>
      "missing metadata block: expected leading `# ` lines holding a JSON object, found " ++
        found.name ++ " at line " ++ toString line
  | .invalidMetadata line _ => "invalid metadata block at line " ++ toString line
  | .misplacedMetadata => "metadata block ends outside its lines"
  | .execution line _ _ => "code starting at line " ++ toString line ++ " failed"
  | .expression origin index _ _ =>
      "template expression #" ++ toString index ++ " in " ++ origin ++ " failed"
  | .nestingTooDeep limit path =>
      "template nesting deeper than " ++ toString limit ++ " levels at " ++ path
  | .unreadable path _ => "cannot read " ++ path

/-- Why it failed, where something else failed first. -/
def reason? : PageError → Option String
  | .invalidMetadata _ error => some error.message
  | .execution _ _ error | .expression _ _ _ error => some error.message
  | .unreadable _ fault => some fault.message
  | _ => none

def message (error : PageError) : String :=
  match error.reason? with
  | some reason => error.headline ++ ": " ++ reason
  | none => error.headline

def failingCode? : PageError → Option String
  | .execution _ code _ | .expression _ _ code _ => some code
  | _ => none

end PageError
end LiteratePages
