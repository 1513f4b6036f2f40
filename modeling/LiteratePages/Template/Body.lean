import LiteratePages.Text.Bytes

/-!
Bodies of templates. A body is text with expressions in it, each between two opening and two
closing braces; an expression holds at least one character and ends as early as it can.
-/
namespace LiteratePages

/-- The text before an expression, and the expression without its braces. -/
structure Hole where
  before : List Char
  code : List Char
deriving Repr, DecidableEq

/-- A body taken apart: its expressions, each with the text before it, and the text after the
last one. -/
structure Body where
  holes : List Hole
  after : List Char
deriving Repr, DecidableEq

namespace Body

/-- What is being read. Texts stand latest character first; `before` is the text since the last
expression. -/
inductive Scan where
  | text (before : List Char)
  | oneBrace (before : List Char)
  | opened (before : List Char)
  | inside (before code : List Char)
  | closing (before code : List Char)

/-- The text that turns out not to hold an expression. -/
def Scan.plain : Scan → List Char
  | .text before => before.reverse
  | .oneBrace before => before.reverse ++ ['\x7b']
  | .opened before => before.reverse ++ ['\x7b', '\x7b']
  | .inside before code => before.reverse ++ ['\x7b', '\x7b'] ++ code.reverse
  | .closing before code => before.reverse ++ ['\x7b', '\x7b'] ++ code.reverse ++ ['\x7d']

def scan : Scan → List Char → Body
  | state, [] => ⟨[], state.plain⟩
  | state, c :: rest =>
      match state with
      | .text before =>
          if c = '\x7b' then scan (.oneBrace before) rest else scan (.text (c :: before)) rest
      | .oneBrace before =>
          if c = '\x7b' then scan (.opened before) rest
          else scan (.text (c :: '\x7b' :: before)) rest
      | .opened before => scan (.inside before [c]) rest
      | .inside before code =>
          if c = '\x7d' then scan (.closing before code) rest
          else scan (.inside before (c :: code)) rest
      | .closing before code =>
          if c = '\x7d' then
            let others := scan (.text []) rest
            { others with holes := ⟨before.reverse, code.reverse⟩ :: others.holes }
          else scan (.inside before (c :: '\x7d' :: code)) rest

def ofChars (text : List Char) : Body := scan (.text []) text

def Hole.written (hole : Hole) : List Char :=
  ['\x7b', '\x7b'] ++ hole.code ++ ['\x7d', '\x7d']

def toChars (body : Body) : List Char :=
  body.holes.flatMap (fun hole => hole.before ++ Hole.written hole) ++ body.after

/-- The bytes that expressions take up, braces included, when `start` bytes come before them. -/
def rangesFrom (start : Nat) : List Hole → List (Nat × Nat)
  | [] => []
  | hole :: rest =>
      let opening := start + Text.byteLength hole.before
      let stop := opening + Text.byteLength (Hole.written hole)
      (opening, stop) :: rangesFrom stop rest

end Body

def expressionRanges (text : String) : List (Nat × Nat) :=
  Body.rangesFrom 0 (Body.ofChars text.toList).holes

end LiteratePages
