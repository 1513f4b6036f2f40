import LiteratePages.Text.Lines

/-!
A literate source as segments: runs of lines of one kind, as long as they can be. Lines that start
with `# ` are prose, `#$` makes the code right below it a listing that is not run, and all else is
code or blank.
-/
namespace LiteratePages

inductive LineKind where
  | prose
  | noExecFlag
  | blank
  | code
deriving Repr, DecidableEq

/-- What a segment is. A listing is code that is shown and not run. -/
inductive SegmentKind where
  | prose
  | code
  | stdout
  | noExecFlag
  | listing
  | blank
deriving Repr, DecidableEq

def proseMarker : List Char := ['#', ' ']

def noExecMarker : List Char := ['#', '$']

def LineKind.ofLine (line : String) : LineKind :=
  if proseMarker.isPrefixOf line.toList then .prose
  else if noExecMarker.isPrefixOf line.toList then .noExecFlag
  else if isBlankText line then .blank
  else .code

namespace SegmentKind

def ofLine : LineKind → SegmentKind
  | .prose => .prose
  | .noExecFlag => .noExecFlag
  | .blank => .blank
  | .code => .code

def name : SegmentKind → String
  | .prose => "prose"
  | .code => "code"
  | .stdout => "stdout"
  | .noExecFlag => "no-exec flag"
  | .listing => "non-executable code"
  | .blank => "blank lines"

/-- The kind of a segment that goes on with another one, if it can. Blank lines extend code but
start none, and never join prose. -/
def combine? : SegmentKind → SegmentKind → Option SegmentKind
  | .prose, .prose => some .prose
  | .code, .code | .code, .blank => some .code
  | .blank, .blank => some .blank
  | .noExecFlag, .code => some .listing
  | .listing, .code | .listing, .blank => some .listing
  | _, _ => none

end SegmentKind

/-- Lines of one kind that follow each other, without their ends. -/
structure Segment where
  kind : SegmentKind
  lines : List String
  /-- The number of the first line, from one. -/
  start : Nat
deriving Repr, DecidableEq

namespace Segment

def ofLine (line : String) (number : Nat) : Segment :=
  ⟨.ofLine (LineKind.ofLine line), [line], number⟩

def stdout (captured : String) (start : Nat) : Segment := ⟨.stdout, sourceLines captured, start⟩

def combine? (segment next : Segment) : Option Segment :=
  (segment.kind.combine? next.kind).map fun kind =>
    { segment with kind, lines := segment.lines ++ next.lines }

def source (segment : Segment) : String := joinLines segment.lines

def unmarked (line : String) : String :=
  if proseMarker.isPrefixOf line.toList then String.ofList (line.toList.drop 2) else line

/-- What a segment says: prose without its markers, a listing without its flag, and nothing for a
flag alone. -/
def content (segment : Segment) : String :=
  match segment.kind with
  | .prose => joinLines (segment.lines.map unmarked)
  | .listing => joinLines (segment.lines.drop 1)
  | .noExecFlag => ""
  | .code | .stdout | .blank => segment.source

def stop (segment : Segment) : Nat := segment.start + (segment.lines.length - 1)

/-- A line without its end, which is a line feed and a carriage return before it. -/
def withoutEnd (line : String) : String :=
  String.ofList (Text.dropFinal '\r' (Text.dropFinal '\n' line.toList))

/-- Goes on from the segments `done` and the open segment `current` with one more. -/
def extend (done : List Segment) (current next : Segment) : List Segment × Segment :=
  match current.combine? next with
  | some merged => (done, merged)
  | none => (done ++ [current], next)

def fold (first : Segment) (rest : List Segment) : List Segment :=
  let (done, last) := rest.foldl (fun (done, current) next => extend done current next) ([], first)
  done ++ [last]

def ofLines (lines : List String) (number : Nat) : List Segment :=
  match (lines.zipIdx number).map fun (line, number) => ofLine (withoutEnd line) number with
  | [] => []
  | first :: rest => fold first rest

/-- The segments of a source; one without any line has none. -/
def segments (lines : List String) : List Segment := ofLines lines 1

example : (segments ["# a", "#$", "x = 1", "", "# b", "", "y"]).map (·.kind) =
    [.prose, .listing, .prose, .blank, .code] := by decide +kernel

end Segment
end LiteratePages
