import LiteratePages.Json.Basic
import LiteratePages.Number.Decimal

namespace LiteratePages.Json

/-- A character as it stands in a JSON string: only quotes, backslashes and the controls below
the space are escaped. -/
def escapeChar (c : Char) : List Char :=
  match c with
  | '"' => ['\\', '"']
  | '\\' => ['\\', '\\']
  | '\x08' => ['\\', 'b']
  | '\x0c' => ['\\', 'f']
  | '\n' => ['\\', 'n']
  | '\r' => ['\\', 'r']
  | '\t' => ['\\', 't']
  | c =>
      if c.toNat < 0x20 then
        ['\\', 'u', '0', '0', Nat.digitChar (c.toNat / 16), Nat.digitChar (c.toNat % 16)]
      else [c]

def stringText (text : String) : String :=
  String.ofList ('"' :: text.toList.flatMap escapeChar ++ ['"'])

/-- A real as JSON: the fewest digits that read back, a tie going to the even one. From `0.00001`
up to below `10 ^ 16` they are positional with at least one digit of fraction, and beyond they are
written with an exponent that carries its sign. -/
def realText (x : Float) : String :=
  match Exact.ofFloat x with
  | .finite negative mantissa exponent =>
      let d := Decimal.shortest .even mantissa exponent
      let digits := d.digitChars
      let power := d.exponent + (digits.length : Int) - 1
      let magnitude :=
        if mantissa = 0 then "0.0".toList
        else if -5 ≤ power ∧ power < 16 then
          if 0 ≤ d.exponent then d.positional ++ ['.', '0'] else d.positional
        else
          let fraction := match digits with
            | first :: second :: rest => first :: '.' :: second :: rest
            | short => short
          let sign := if power < 0 then '-' else '+'
          fraction ++ 'e' :: sign :: Nat.toDigits 10 power.natAbs
      String.ofList (if negative then '-' :: magnitude else magnitude)
  | _ => "null"

mutual

def compact : Json → String
  | .null => "null"
  | .bool value => if value then "true" else "false"
  | .integer value => toString value
  | .real value => realText value
  | .string value => stringText value
  | .list items => "[" ++ ",".intercalate (compactItems items) ++ "]"
  | .object entries => "\x7b" ++ ",".intercalate (compactEntries entries) ++ "\x7d"
termination_by structural value => value

def compactItems : List Json → List String
  | [] => []
  | item :: rest => compact item :: compactItems rest
termination_by structural items => items

def compactEntries : List (String × Json) → List String
  | [] => []
  | (key, value) :: rest => (stringText key ++ ":" ++ compact value) :: compactEntries rest
termination_by structural entries => entries

end

/-- Items on lines of their own, two blanks further in than the brackets around them. -/
def block (opening closing : String) (depth : Nat) (items : List String) : String :=
  if items.isEmpty then opening ++ closing
  else
    let inner := "\n" ++ "".pushn ' ' (2 * (depth + 1))
    opening ++ inner ++ ("," ++ inner).intercalate items ++ "\n" ++ "".pushn ' ' (2 * depth) ++ closing

mutual

/-- The value over several lines, inside `depth` brackets. -/
def prettyAt (depth : Nat) : Json → String
  | .list items => block "[" "]" depth (prettyItems (depth + 1) items)
  | .object entries => block "\x7b" "\x7d" depth (prettyEntries (depth + 1) entries)
  | value => compact value
termination_by structural value => value

def prettyItems (depth : Nat) : List Json → List String
  | [] => []
  | item :: rest => prettyAt depth item :: prettyItems depth rest
termination_by structural items => items

def prettyEntries (depth : Nat) : List (String × Json) → List String
  | [] => []
  | (key, value) :: rest =>
      (stringText key ++ ": " ++ prettyAt depth value) :: prettyEntries depth rest
termination_by structural entries => entries

end

def pretty (value : Json) : String := prettyAt 0 value

example : compact (.object [("a", .list [.null, .integer 12]), ("b", .string "q\"\x01")]) =
    "\x7b\"a\":[null,12],\"b\":\"q\\\"\\u0001\"\x7d" := by decide +kernel
example : pretty (.list [.list [], .bool true]) = "[\n  [],\n  true\n]" := by decide +kernel
example : realText 1e16 = "1e+16" := by decide +kernel
example : realText 1.2e-6 = "1.2e-6" := by decide +kernel
example : realText 100 = "100.0" := by decide +kernel

end LiteratePages.Json
