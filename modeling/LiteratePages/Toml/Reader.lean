import LiteratePages.Toml.Scalar

/-!
Reading TOML documents. Every step takes at least one character, so the number of characters bounds
how far the readers here go.
-/
namespace LiteratePages.Toml

def isSpace (c : Char) : Bool := c == ' ' || c == '\t'

def skipSpaces (chars : List Char) : List Char := chars.dropWhile isSpace

/-- Characters that may stand in comments and, quotes and backslashes apart, in strings. -/
def isTextChar (c : Char) : Bool := c == '\t' || (0x20 ≤ c.toNat && c.toNat != 0x7f)

def newline? : List Char → Option (List Char)
  | '\n' :: rest => some rest
  | '\r' :: '\n' :: rest => some rest
  | _ => none

def skipComment : List Char → List Char
  | '#' :: rest => rest.dropWhile isTextChar
  | chars => chars

/-- What follows blanks, a comment and the end of the line or of the text. -/
def lineEnd? (chars : List Char) : Option (List Char) :=
  match skipComment (skipSpaces chars) with
  | [] => some []
  | chars => newline? chars

def skipLines : (bound : Nat) → List Char → List Char
  | 0, chars => chars
  | bound + 1, chars =>
      let chars := skipSpaces chars
      match newline? (skipComment chars) with
      | some rest => skipLines bound rest
      | none => chars

def numericEscape? (count : Nat) (chars : List Char) : Option (Char × List Char) :=
  let digits := chars.take count
  let point := Number.ofBase 16 digits
  if digits.length = count ∧ digits.all Number.isHexDigit ∧ point.isValidChar then
    some (Char.ofNat point, chars.drop count)
  else none

def escape? : List Char → Option (Char × List Char)
  | 'b' :: rest => some ('\x08', rest)
  | 't' :: rest => some ('\t', rest)
  | 'n' :: rest => some ('\n', rest)
  | 'f' :: rest => some ('\x0c', rest)
  | 'r' :: rest => some ('\r', rest)
  | '"' :: rest => some ('"', rest)
  | '\\' :: rest => some ('\\', rest)
  | 'u' :: rest => numericEscape? 4 rest
  | 'U' :: rest => numericEscape? 8 rest
  | _ => none

/-- Reads the rest of a string on one line, with its characters so far, the latest first. -/
def lineString (quote : Char) : (bound : Nat) → (read : List Char) → List Char →
    Option (String × List Char)
  | 0, _, _ => none
  | _, _, [] => none
  | bound + 1, read, c :: rest =>
      if c = quote then some (String.ofList read.reverse, rest)
      else if c = '\\' ∧ quote = '"' then
        match escape? rest with
        | some (character, rest) => lineString quote bound (character :: read) rest
        | none => none
      else if isTextChar c then lineString quote bound (c :: read) rest
      else none

/-- Reads the rest of a string over several lines. Five quotes in a row are two of the text and
three that end it; a backslash at the end of a line takes the blanks and lines after it away. -/
def linesString (quote : Char) : (bound : Nat) → (read : List Char) → List Char →
    Option (String × List Char)
  | 0, _, _ => none
  | _, _, [] => none
  | bound + 1, read, c :: rest =>
      if c = quote then
        let quotes := 1 + (rest.takeWhile (· == quote)).length
        let after := rest.dropWhile (· == quote)
        if 5 < quotes then none
        else if 3 ≤ quotes then
          some (String.ofList ((List.replicate (quotes - 3) quote ++ read).reverse), after)
        else linesString quote bound (List.replicate quotes quote ++ read) after
      else if c = '\\' ∧ quote = '"' then
        match newline? (skipSpaces rest) with
        | some rest => linesString quote bound read (skipBlank bound rest)
        | none => match escape? rest with
            | some (character, rest) => linesString quote bound (character :: read) rest
            | none => none
      else match newline? (c :: rest) with
        | some rest => linesString quote bound ('\n' :: read) rest
        | none => if isTextChar c then linesString quote bound (c :: read) rest else none
where
  skipBlank : (bound : Nat) → List Char → List Char
    | 0, chars => chars
    | bound + 1, chars =>
        let chars := skipSpaces chars
        match newline? chars with
        | some rest => skipBlank bound rest
        | none => chars

/-- Reads a string that starts with `quote`. A line that ends right after three quotes does not
belong to it. -/
def readString (quote : Char) (rest : List Char) : Option (String × List Char) :=
  match rest with
  | second :: third :: more =>
      if second = quote ∧ third = quote then
        linesString quote (more.length + 1) [] ((newline? more).getD more)
      else lineString quote (rest.length + 1) [] rest
  | rest => lineString quote (rest.length + 1) [] rest

def isKeyChar (c : Char) : Bool := c.isAlphanum || c == '_' || c == '-'

def readSimpleKey (chars : List Char) : Option (String × List Char) :=
  match chars with
  | '"' :: rest => lineString '"' (rest.length + 1) [] rest
  | '\'' :: rest => lineString '\'' (rest.length + 1) [] rest
  | chars =>
      let key := chars.takeWhile isKeyChar
      if key.isEmpty then none else some (String.ofList key, chars.dropWhile isKeyChar)

/-- How many parts a key may have, and how many brackets may be open, less one. -/
def depthLimit : Nat := 80

/-- Reads the parts of a key and the blanks around them. -/
def readKey : (bound : Nat) → List Char → Option (List String × List Char)
  | 0, _ => none
  | bound + 1, chars => do
      let (key, rest) ← readSimpleKey (skipSpaces chars)
      match skipSpaces rest with
      | '.' :: rest =>
          let (more, rest) ← readKey bound rest
          return (key :: more, rest)
      | rest => return ([key], rest)

def readPairKey (chars : List Char) : Option (List String × List Char) := do
  let (path, rest) ← readKey (depthLimit - 1) chars
  let rest ← expect? '=' rest
  return (path, skipSpaces rest)

mutual

/-- Reads a value inside `levels` fewer brackets than may be open. -/
def readValue : (bound levels : Nat) → List Char → Option (Toml × List Char)
  | 0, _, _ => none
  | bound + 1, levels, chars =>
      match chars with
      | '"' :: rest => (readString '"' rest).map fun (text, rest) => (.string text, rest)
      | '\'' :: rest => (readString '\'' rest).map fun (text, rest) => (.string text, rest)
      | '[' :: rest => match levels with
          | 0 => none
          | levels + 1 => do
              let (items, rest) ← readItems bound levels rest
              return (.array items, rest)
      | '\x7b' :: rest => match levels with
          | 0 => none
          | levels + 1 => match skipSpaces rest with
              | '\x7d' :: rest => some (.table [], rest)
              | rest => do
                  let (pairs, rest) ← readPairs bound levels .empty rest
                  return (pairs.toToml, rest)
      | chars => readWord chars
termination_by structural bound => bound

def readItems : (bound levels : Nat) → List Char → Option (List Toml × List Char)
  | 0, _, _ => none
  | bound + 1, levels, chars =>
      match skipLines chars.length chars with
      | ']' :: rest => some ([], rest)
      | chars => do
          let (item, rest) ← readValue bound levels chars
          match skipLines rest.length rest with
          | ',' :: rest =>
              let (items, rest) ← readItems bound levels rest
              return (item :: items, rest)
          | ']' :: rest => return ([item], rest)
          | _ => none
termination_by structural bound => bound

def readPairs : (bound levels : Nat) → Table → List Char → Option (Table × List Char)
  | 0, _, _, _ => none
  | bound + 1, levels, pairs, chars => do
      let (path, rest) ← readPairKey chars
      let (value, rest) ← readValue bound levels rest
      let pairs ← pairs.assign path value
      match skipSpaces rest with
      | ',' :: rest => readPairs bound levels pairs rest
      | '\x7d' :: rest => return (pairs, rest)
      | _ => none
termination_by structural bound => bound

end

/-- A document as far as it has been read: the tables whose headers are done, and the one that is
being filled. -/
structure Draft where
  root : Table
  current : Table
  path : List String
  /-- Whether the header of the current table has double brackets. -/
  repeated : Bool

namespace Draft

def finish (draft : Draft) : Option Table :=
  if draft.path.isEmpty then some draft.current
  else if draft.repeated then Table.push draft.path draft.current draft.root
  else Table.close draft.path draft.current draft.root

def header (draft : Draft) (path : List String) (repeated : Bool) : Option Draft := do
  let root ← draft.finish
  if repeated then
    let key ← path.getLast?
    let root ← Table.modify false (fun parent => match parent.get? key with
      | none | some (.tables _) => some parent
      | some _ => none) path.dropLast root
    return ⟨root, .empty, path, true⟩
  else
    let current ← Table.open? path root
    return ⟨root, current, path, false⟩

end Draft

def readHeader (draft : Draft) (chars : List Char) : Option (Draft × List Char) := do
  let (repeated, chars) := match chars with
    | '[' :: rest => (true, rest)
    | chars => (false, chars)
  let (path, rest) ← readKey (depthLimit - 1) chars
  let rest ← expect? ']' rest
  let rest ← if repeated then expect? ']' rest else some rest
  let draft ← draft.header path repeated
  return (draft, ← lineEnd? rest)

def readLines : (bound : Nat) → Draft → List Char → Option Draft
  | 0, draft, chars => if chars.isEmpty then some draft else none
  | bound + 1, draft, chars =>
      match skipSpaces chars with
      | [] => some draft
      | '[' :: rest => match readHeader draft rest with
          | some (draft, rest) => readLines bound draft rest
          | none => none
      | chars => match newline? (skipComment chars), skipComment chars with
          | some rest, _ => readLines bound draft rest
          | none, [] => some draft
          | none, _ => do
              let (path, rest) ← readPairKey chars
              let (value, rest) ← readValue (2 * rest.length + 2) (depthLimit - 1) rest
              let current ← draft.current.assign path value
              readLines bound { draft with current } (← lineEnd? rest)

def parse (text : String) : Option (List (String × Toml)) := do
  let chars := match text.toList with
    | '\uFEFF' :: rest => rest
    | chars => chars
  let draft ← readLines (chars.length + 1) ⟨.empty, .empty, [], false⟩ chars
  let root ← draft.finish
  match root.toToml with
  | .table entries => some entries
  | _ => none

end LiteratePages.Toml
