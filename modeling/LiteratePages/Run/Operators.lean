import LiteratePages.Number.Words
import LiteratePages.Run.Fault

namespace LiteratePages

/-- The most bytes of a string, or items of a list, that an operation may build. -/
def maxLength : Nat := Nat.pow 2 24

namespace Value

def mismatch (wanted : WantedType) (got : Value) : Fault := .typeMismatch wanted got.typeName

def asNumber : Value → Except Fault Float
  | .number value => .ok value
  | other => .error (mismatch .number other)

def asString : Value → Except Fault String
  | .string value => .ok value
  | other => .error (mismatch .string other)

/-- Refuses a length beyond the most, and one that no word holds. -/
def checkLength (length : Option Nat) (what : Oversize) : Except Fault Unit :=
  match length with
  | some length => if length ≤ maxLength then .ok () else .error (.tooLarge what)
  | .none => .error (.tooLarge what)

def copies (text : String) (count : Nat) : String := count.repeat (· ++ text) ""

/-- A text as often as a word says. -/
def repeatedTimes (text : String) (count : Nat) : Except Fault Value :=
  if text.isEmpty ∨ count = 0 then .ok (.string "")
  else do
    checkLength (Number.unsigned64? (text.utf8ByteSize * count : Nat)) .repeated
    return .string (copies text count)

/-- A text as often as `count` says, in which a fraction, a count below zero and one that is no
number add nothing. -/
def repeated (text : String) (count : Float) : Except Fault Value :=
  repeatedTimes text (if 0 < count then Number.toUnsigned64 count else 0)

def arithmetic (left right : Value) (operation : Float → Float → Float) : Except Fault Value := do
  let a ← left.asNumber
  let b ← right.asNumber
  return .number (operation a b)

/-- As `arithmetic`, but the right operand must not be zero. -/
def quotient (left right : Value) (operation : Float → Float → Float) : Except Fault Value := do
  let a ← left.asNumber
  let b ← right.asNumber
  if b == 0 then throw .divisionByZero
  return .number (operation a b)

def add : Value → Value → Except Fault Value
  | .number a, .number b => .ok (.number (a + b))
  | .string a, .string b => do
      checkLength (Number.unsigned64? (a.utf8ByteSize + b.utf8ByteSize : Nat)) .concatenatedString
      return .string (a ++ b)
  | .list a, .list b => do
      checkLength (Number.unsigned64? (a.length + b.length : Nat)) .concatenatedList
      return .list (a ++ b)
  | left, right => .error (.typeMismatch .matching (left.typeName ++ " + " ++ right.typeName))

def multiply : Value → Value → Except Fault Value
  | .string text, .number count => repeated text count
  | .number count, .string text => repeated text count
  | left, right => arithmetic left right (· * ·)

/-- Strings compare by their characters, and numbers by value; a number that is none is in no
order with any other. -/
def ordered (left right : Value) (strings : String → String → Bool)
    (numbers : Float → Float → Bool) : Except Fault Value :=
  match left, right with
  | .string a, .string b => .ok (.boolean (strings a b))
  | left, right => do
      let a ← left.asNumber
      let b ← right.asNumber
      return .boolean (numbers a b)

/-- A binary operator on two values. Of `and` and `or` only the truth is left to decide here: the
right operand is evaluated after the left one has been looked at. -/
def binary (op : Code.Binary) (left right : Value) : Except Fault Value :=
  match op with
  | .add => add left right
  | .subtract => arithmetic left right (· - ·)
  | .multiply => multiply left right
  | .divide => quotient left right (· / ·)
  | .modulo => quotient left right Number.remainder
  | .equal => .ok (.boolean (equal left right))
  | .unequal => .ok (.boolean !(equal left right))
  | .greater => ordered left right (fun a b => b < a) (fun a b => b < a)
  | .less => ordered left right (fun a b => a < b) (fun a b => a < b)
  | .greaterOrEqual => ordered left right (fun a b => b ≤ a) (fun a b => b ≤ a)
  | .lessOrEqual => ordered left right (fun a b => a ≤ b) (fun a b => a ≤ b)
  | .and => .ok (.boolean (left.truthy && right.truthy))
  | .or => .ok (.boolean (left.truthy || right.truthy))

def unary (op : Code.Unary) (operand : Value) : Except Fault Value :=
  match op with
  | .negation => do return .number (-(← operand.asNumber))
  | .logicalNot => .ok (.boolean !operand.truthy)

/-- The position that `index` selects among `length` items; those below zero count from the end. -/
def position (index : Int) (length : Nat) : Except Fault Nat :=
  let size := Number.wrapSigned64 length
  let resolved := if index < 0 then Number.wrapSigned64 (size + index) else index
  if resolved < 0 ∨ size ≤ resolved then .error (.indexOutOfBounds index)
  else .ok (Number.wrapUnsigned64 resolved)

def pick {α : Type} (items : List α) (index : Int) : Except Fault α := do
  let place ← position index items.length
  match items[place]? with
  | some item => return item
  | .none => throw (.indexOutOfBounds index)

def select {α : Type} (items : List α) (index : Value) : Except Fault α := do
  let n ← index.asNumber
  if !Number.isFloor n then throw (.typeMismatch .integerIndex (Number.text n))
  pick items (Number.toSigned64 n)

def atIndex (target index : Value) : Except Fault Value :=
  match target with
  | .list items => select items index
  | .string text => do
      let c ← select text.toList index
      return .string (String.singleton c)
  | .map entries => match index with
      | .string key => match Entries.get? entries key with
          | some value => .ok value
          | .none => .error (.keyNotFound key)
      | other => .error (mismatch .stringKey other)
  | other => .error (mismatch .indexable other)

/-- What a loop over a value goes through: items, keys or characters. -/
def iterate : Value → Except Fault (List Value)
  | .list items => .ok items
  | .map entries => .ok ((Entries.keys entries).map .string)
  | .string text => .ok (text.toList.map fun c => .string (String.singleton c))
  | other => .error (mismatch .iterable other)

end Value
end LiteratePages
