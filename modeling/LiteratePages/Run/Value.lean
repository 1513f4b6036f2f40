import LiteratePages.Json.Printer

namespace LiteratePages

inductive Builtin where
  | print
  | len
  | str
  | range
  | join
  | keys
  | upper
  | lower
  | get
deriving Repr, DecidableEq

def Builtin.name : Builtin → String
  | .print => "print"
  | .len => "len"
  | .str => "str"
  | .range => "range"
  | .join => "join"
  | .keys => "keys"
  | .upper => "upper"
  | .lower => "lower"
  | .get => "get"

def Builtin.all : List Builtin := [.print, .len, .str, .range, .join, .keys, .upper, .lower, .get]

def Builtin.named? (name : String) : Option Builtin := all.find? (·.name == name)

/-- What a function does when it is called. A host function is one that whoever runs the code
provides. -/
inductive Callee where
  | builtin (function : Builtin)
  | host (name : String)
deriving Repr, DecidableEq

def Callee.name : Callee → String
  | .builtin function => function.name
  | .host name => name

/-- A function value. Each mention of a builtin makes a new one, so two are the same only if one
is a copy of the other. -/
structure Function where
  callee : Callee
  identity : Nat
deriving Repr, DecidableEq

inductive Value where
  | number (value : Float)
  | boolean (value : Bool)
  | string (value : String)
  | none
  | list (items : List Value)
  /-- In the order of the keys. -/
  | map (entries : List (String × Value))
  | function (made : Function)
deriving Inhabited

namespace Value

def truthy : Value → Bool
  | .boolean value => value
  | .none => false
  | .number value => !(value == 0)
  | .string value => !value.isEmpty
  | .list items => !items.isEmpty
  | .map entries => !entries.isEmpty
  | .function _ => true

def typeName : Value → String
  | .number _ => "Number"
  | .boolean _ => "Boolean"
  | .string _ => "String"
  | .none => "None"
  | .list _ => "List"
  | .map _ => "Map"
  | .function _ => "Function"

def escapeChar (c : Char) : List Char :=
  if c = '\\' then ['\\', '\\'] else if c = '"' then ['\\', '"'] else [c]

def escape (text : String) : String :=
  String.ofList ('"' :: text.toList.flatMap escapeChar ++ ['"'])

mutual

/-- The text of a value. Inside a container strings stand between quotes. -/
def shown (inside : Bool) : Value → String
  | .number value => Number.display value
  | .boolean value => if value then "true" else "false"
  | .string value => if inside then escape value else value
  | .none => "none"
  | .list items => "[" ++ ", ".intercalate (shownItems items) ++ "]"
  | .map entries => "\x7b" ++ ", ".intercalate (shownEntries entries) ++ "\x7d"
  | .function made => "<fn " ++ made.callee.name ++ ">"
termination_by structural value => value

def shownItems : List Value → List String
  | [] => []
  | item :: rest => shown true item :: shownItems rest
termination_by structural items => items

/-- Keys stand between quotes as they are. -/
def shownEntries : List (String × Value) → List String
  | [] => []
  | (key, value) :: rest => ("\"" ++ key ++ "\": " ++ shown true value) :: shownEntries rest
termination_by structural entries => entries

end

def display (value : Value) : String := shown false value

mutual

/-- Equality as the language has it: numbers by value, so that no number that is none is equal to
anything, functions by identity, and containers item by item. -/
def equal : Value → Value → Bool
  | .number a, .number b => a == b
  | .boolean a, .boolean b => a == b
  | .string a, .string b => a == b
  | .none, .none => true
  | .list a, .list b => equalItems a b
  | .map a, .map b => equalEntries a b
  | .function a, .function b => a == b
  | _, _ => false
termination_by structural a => a

def equalItems : List Value → List Value → Bool
  | [], [] => true
  | a :: as, b :: bs => equal a b && equalItems as bs
  | _, _ => false
termination_by structural as => as

def equalEntries : List (String × Value) → List (String × Value) → Bool
  | [], [] => true
  | (k, a) :: as, (l, b) :: bs => k == l && equal a b && equalEntries as bs
  | _, _ => false
termination_by structural as => as

end

/-- A number as JSON: an integer where it is a small one, and nothing where JSON has no number. -/
def numberToJson (x : Float) : Json :=
  match Number.smallInteger? x with
  | some n => .integer n
  | .none => match Exact.ofFloat x with
      | .finite .. => .real x
      | _ => .null

mutual

/-- The value as JSON, in which functions are nothing. -/
def toJson : Value → Json
  | .number value => numberToJson value
  | .boolean value => .bool value
  | .string value => .string value
  | .none => .null
  | .list items => .list (itemsToJson items)
  | .map entries => .object (entriesToJson entries)
  | .function _ => .null
termination_by structural value => value

def itemsToJson : List Value → List Json
  | [] => []
  | item :: rest => toJson item :: itemsToJson rest
termination_by structural items => items

def entriesToJson : List (String × Value) → List (String × Json)
  | [] => []
  | (key, value) :: rest => (key, toJson value) :: entriesToJson rest
termination_by structural entries => entries

end

mutual

def ofJson : Json → Value
  | .null => .none
  | .bool value => .boolean value
  | .integer value => .number (Float.ofInt value)
  | .real value => .number value
  | .string value => .string value
  | .list items => .list (itemsOfJson items)
  | .object entries => .map (entriesOfJson entries)
termination_by structural json => json

def itemsOfJson : List Json → List Value
  | [] => []
  | item :: rest => ofJson item :: itemsOfJson rest
termination_by structural items => items

def entriesOfJson : List (String × Json) → List (String × Value)
  | [] => []
  | (key, value) :: rest => (key, ofJson value) :: entriesOfJson rest
termination_by structural entries => entries

end

example : display (.list [.string "a\"b", .none, .map [("k", .boolean true)]]) =
    "[\"a\\\"b\", none, \x7b\"k\": true\x7d]" := by decide +kernel

end Value
end LiteratePages
