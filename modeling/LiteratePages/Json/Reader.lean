import LiteratePages.Json.Error
import LiteratePages.Json.Printer
import LiteratePages.Number.Scaled
import LiteratePages.Text.Bytes
import LiteratePages.Text.Quoted

/-!
Reading JSON, one character at a time. `Reading` says what is being read, `Frame` what is open
around it, and `read` goes on until a value is complete and says where it ends, so that a text may
go on after the value.
-/
namespace LiteratePages.Json

structure Numeral where
  negative : Bool
  whole : List Char
  fraction : Option (List Char)
  /-- The exponent, if there is one: its sign and its digits. -/
  power : Option (Bool × List Char)

inductive NumberPart where
  | minus
  | zero
  | whole
  | point
  | fraction
  | mark
  | sign
  | power

inductive StringUse where
  | key
  | value

/-- Where a string is being read. A pending half is the first of two surrogates. -/
inductive StringPart where
  | plain
  | escape
  /-- Among the four digits of an escape that start at byte `start`. -/
  | hex (half : Option Nat) (start : Nat) (count : Nat) (value : Nat)
  /-- After a first half, before the backslash of the second. -/
  | backslash (half : Nat)
  | marker (half : Nat)

inductive Reading where
  | value
  | listStart
  | listNext
  | objectStart
  | objectNext
  | colon (key : String)
  | more
  | word (rest : List Char) (value : Json)
  | number (part : NumberPart) (numeral : Numeral)
  | string (use : StringUse) (part : StringPart) (chars : List Char)
  | done (value : Json)

/-- What is open around the value being read. Items and entries stand latest first. -/
inductive Frame where
  | list (items : List Json)
  | object (entries : List (String × Json)) (key : String)

structure State where
  reading : Reading
  stack : List Frame

def maxOpen : Nat := 127

def isSpace (c : Char) : Bool := c == ' ' || c == '\n' || c == '\t' || c == '\r'

/-- The value that a numeral stands for, unless it is too large. A real is read in two steps, so it
may miss the nearest number by a last bit. -/
def Numeral.value? (n : Numeral) : Option Json :=
  let magnitude := Number.ofDigits n.whole
  let integer := signed n.negative magnitude
  if n.fraction = none ∧ n.power = none ∧ isWord integer ∧ ¬(n.negative ∧ magnitude = 0) then
    some (.integer integer)
  else
    let power := match n.power with
      | none => 0
      | some (negative, digits) => signed negative (Number.ofDigits digits)
    let real := Number.ofScaled n.whole (n.fraction.getD []) power
    match Exact.ofFloat real with
    | .finite .. => some (.real (if n.negative then -real else real))
    | _ => none

def State.complete (stack : List Frame) (value : Json) : State :=
  match stack with
  | [] => ⟨.done value, []⟩
  | .list items :: rest => ⟨.more, .list (value :: items) :: rest⟩
  | .object entries key :: rest => ⟨.more, .object ((key, value) :: entries) "" :: rest⟩

def startValue (stack : List Frame) (c : Char) : Except Cause State :=
  let numeral : Numeral := ⟨false, [c], none, none⟩
  if c = '"' then .ok ⟨.string .value .plain [], stack⟩
  else if c = '[' ∨ c = '\x7b' then
    if stack.length < maxOpen then
      if c = '[' then .ok ⟨.listStart, .list [] :: stack⟩
      else .ok ⟨.objectStart, .object [] "" :: stack⟩
    else .error .tooDeep
  else if c = 'n' then .ok ⟨.word "ull".toList .null, stack⟩
  else if c = 't' then .ok ⟨.word "rue".toList (.bool true), stack⟩
  else if c = 'f' then .ok ⟨.word "alse".toList (.bool false), stack⟩
  else if c = '-' then .ok ⟨.number .minus ⟨true, [], none, none⟩, stack⟩
  else if c = '0' then .ok ⟨.number .zero numeral, stack⟩
  else if c.isDigit then .ok ⟨.number .whole numeral, stack⟩
  else .error .expectedValue

def afterValue (stack : List Frame) (c : Char) : Except Cause State :=
  match stack with
  | .list items :: rest =>
      if isSpace c then .ok ⟨.more, stack⟩
      else if c = ',' then .ok ⟨.listNext, stack⟩
      else if c = ']' then .ok (.complete rest (.list items.reverse))
      else .error .expectedListEnd
  | .object entries _ :: rest =>
      if isSpace c then .ok ⟨.more, stack⟩
      else if c = ',' then .ok ⟨.objectNext, stack⟩
      else if c = '\x7d' then .ok (.complete rest (.object (Entries.ofList entries.reverse)))
      else .error .expectedObjectEnd
  | [] => .error .trailingCharacters

/-- The result of one character: it is taken, or the value ended before it. -/
inductive Move where
  | take (state : State)
  | stop (value : Json)

/-- The state after the last of four digits with value `unit`. -/
def afterHex (use : StringUse) (chars : List Char) (stack : List Frame) (half : Option Nat)
    (unit : Nat) : Except Cause State :=
  let isFirst := 0xd800 ≤ unit ∧ unit < 0xdc00
  let isSecond := 0xdc00 ≤ unit ∧ unit < 0xe000
  match half with
  | some first =>
      if isSecond then
        let point := 0x10000 + (first - 0xd800) * 0x400 + (unit - 0xdc00)
        .ok ⟨.string use .plain (Char.ofNat point :: chars), stack⟩
      else .error .loneSurrogate
  | none =>
      if isFirst then .ok ⟨.string use (.backslash unit) chars, stack⟩
      else if isSecond then .error .loneSurrogate
      else .ok ⟨.string use .plain (Char.ofNat unit :: chars), stack⟩

/-- The character that follows a backslash stands for one, or starts four digits. -/
def escaped? (c : Char) : Option Char :=
  match c with
  | '"' => some '"'
  | '\\' => some '\\'
  | '/' => some '/'
  | 'b' => some '\x08'
  | 'f' => some '\x0c'
  | 'n' => some '\n'
  | 'r' => some '\r'
  | 't' => some '\t'
  | _ => none

/-- One character of a string at byte `index`, with `left` bytes from it to the end. An escape
with a digit that is none is noted after four bytes, or at the end when there are fewer. -/
def stepString (use : StringUse) (part : StringPart) (chars : List Char) (stack : List Frame)
    (index left : Nat) (c : Char) : Except Fault State :=
  let note (cause : Cause) : Except Fault State := .error ⟨cause, index + 1⟩
  match part with
  | .plain =>
      if c = '"' then
        let text := String.ofList chars.reverse
        match use, stack with
        | .key, .object entries _ :: rest => .ok ⟨.colon text, .object entries text :: rest⟩
        | _, _ => .ok (.complete stack (.string text))
      else if c = '\\' then .ok ⟨.string use .escape chars, stack⟩
      else if c.toNat < 0x20 then note .controlCharacter
      else .ok ⟨.string use .plain (c :: chars), stack⟩
  | .escape =>
      if c = 'u' then .ok ⟨.string use (.hex none (index + 1) 0 0) chars, stack⟩
      else match escaped? c with
        | some character => .ok ⟨.string use .plain (character :: chars), stack⟩
        | none => note .invalidEscape
  | .hex half start count value =>
      if Number.isHexDigit c then
        let value := value * 16 + Number.digitValue c
        if count = 3 then
          match afterHex use chars stack half value with
          | .ok state => .ok state
          | .error cause => note cause
        else .ok ⟨.string use (.hex half start (count + 1) value) chars, stack⟩
      else if start + 4 ≤ index + left then .error ⟨.invalidEscape, start + 4⟩
      else .error ⟨.endInString, index + left⟩
  | .backslash half =>
      if c = '\\' then .ok ⟨.string use (.marker half) chars, stack⟩ else note .unfinishedSurrogate
  | .marker half =>
      if c = 'u' then .ok ⟨.string use (.hex (some half) (index + 1) 0 0) chars, stack⟩
      else note .unfinishedSurrogate

def NumberPart.mayEnd : NumberPart → Bool
  | .zero | .whole | .fraction | .power => true
  | _ => false

def Numeral.extend? (n : Numeral) (part : NumberPart) (c : Char) : Option (NumberPart × Numeral) :=
  let fraction : NumberPart × Numeral :=
    (.fraction, { n with fraction := some (n.fraction.getD [] ++ [c]) })
  let power : NumberPart × Numeral := match n.power with
    | some (negative, digits) => (.power, { n with power := some (negative, digits ++ [c]) })
    | none => (.power, { n with power := some (false, [c]) })
  let mark : NumberPart × Numeral := (.mark, { n with power := some (false, []) })
  let isMark := c = 'e' ∨ c = 'E'
  match part with
  | .minus =>
      if c = '0' then some (.zero, { n with whole := [c] })
      else if c.isDigit then some (.whole, { n with whole := [c] })
      else none
  | .zero =>
      if c = '.' then some (.point, { n with fraction := some [] })
      else if isMark then some mark else none
  | .whole =>
      if c.isDigit then some (.whole, { n with whole := n.whole ++ [c] })
      else if c = '.' then some (.point, { n with fraction := some [] })
      else if isMark then some mark else none
  | .point => if c.isDigit then some fraction else none
  | .fraction =>
      if c.isDigit then some fraction else if isMark then some mark else none
  | .mark =>
      if c = '+' ∨ c = '-' then some (.sign, { n with power := some (c = '-', []) })
      else if c.isDigit then some power else none
  | .sign => if c.isDigit then some power else none
  | .power => if c.isDigit then some power else none

/-- Whether an exponent is so large that only zero can bear it. -/
def Numeral.overflows (n : Numeral) : Bool :=
  match n.power with
  | some (false, digits) =>
      Nat.pow 2 31 ≤ Number.ofDigits digits && Number.ofDigits (n.whole ++ n.fraction.getD []) != 0
  | _ => false

/-- One character at byte `index`, with `left` bytes from it to the end. -/
def step (state : State) (index left : Nat) (c : Char) : Except Fault Move :=
  let stack := state.stack
  let take (result : Except Cause State) : Except Fault Move :=
    match result with
    | .ok next => .ok (.take next)
    | .error cause => .error ⟨cause, index + 1⟩
  match state.reading with
  | .value => if isSpace c then .ok (.take state) else take (startValue stack c)
  | .listStart =>
      if isSpace c then .ok (.take state)
      else if c = ']' then .ok (.take (.complete stack.tail (.list [])))
      else take (startValue stack c)
  | .listNext =>
      if isSpace c then .ok (.take state)
      else if c = ']' then take (.error .trailingComma)
      else take (startValue stack c)
  | .objectStart =>
      if isSpace c then .ok (.take state)
      else if c = '\x7d' then .ok (.take (.complete stack.tail (.object [])))
      else if c = '"' then .ok (.take ⟨.string .key .plain [], stack⟩)
      else take (.error .keyNotString)
  | .objectNext =>
      if isSpace c then .ok (.take state)
      else if c = '\x7d' then take (.error .trailingComma)
      else if c = '"' then .ok (.take ⟨.string .key .plain [], stack⟩)
      else take (.error .keyNotString)
  | .colon _ =>
      if isSpace c then .ok (.take state)
      else if c = ':' then .ok (.take ⟨.value, stack⟩)
      else take (.error .expectedColon)
  | .more => take (afterValue stack c)
  | .word rest value =>
      match rest with
      | next :: rest =>
          if c = next then
            .ok (.take (if rest = [] then .complete stack value else ⟨.word rest value, stack⟩))
          else take (.error .expectedWord)
      | [] => take (.error .expectedWord)
  | .string use part chars => (stepString use part chars stack index left c).map .take
  | .number part numeral =>
      match numeral.extend? part c with
      | some (part, numeral) =>
          if numeral.overflows then take (.error .numberOutOfRange)
          else .ok (.take ⟨.number part numeral, stack⟩)
      | none =>
          if part.mayEnd ∧ ¬(part matches .zero ∧ c.isDigit) then
            match numeral.value? with
            | none => .error ⟨.numberOutOfRange, index⟩
            | some value =>
                if stack.isEmpty then .ok (.stop value)
                else take (afterValue (State.complete stack value).stack c)
          else take (.error .invalidNumber)
  | .done value => .ok (.stop value)

def atEnd (state : State) : Except Cause Json :=
  match state.reading with
  | .listStart => .error .endInList
  | .objectStart | .colon _ => .error .endInObject
  | .more => match state.stack with
      | .list _ :: _ => .error .endInList
      | _ => .error .endInObject
  | .string .. => .error .endInString
  | .number part numeral =>
      if part.mayEnd then
        match numeral.value? with
        | none => .error .numberOutOfRange
        | some value => match state.stack with
            | [] => .ok value
            | .list _ :: _ => .error .endInList
            | .object .. :: _ => .error .endInObject
      else .error .endInValue
  | .done value => .ok value
  | .value | .listNext | .objectNext | .word .. => .error .endInValue

/-- Reads until a value is complete. The answer holds the byte at which it ends and the text
after it. -/
def readFrom (state : State) (index left : Nat) : List Char → Except Fault (Json × Nat × List Char)
  | [] =>
      match atEnd state with
      | .ok value => .ok (value, index, [])
      | .error cause => .error ⟨cause, index⟩
  | c :: rest =>
      match step state index left c with
      | .ok (.take next) => readFrom next (index + c.utf8Size) (left - c.utf8Size) rest
      | .ok (.stop value) => .ok (value, index, c :: rest)
      | .error fault => .error fault

def describe : Json → String
  | .null => "null"
  | .bool value => "boolean `" ++ (if value then "true" else "false") ++ "`"
  | .integer value => "integer `" ++ toString value ++ "`"
  | .real value => "floating point `" ++ realText value ++ "`"
  | .string value => "string " ++ quoted value
  | .list _ => "sequence"
  | .object _ => "map"

/-- Reads the object that a text starts with, after blanks. A list is refused where it starts, any
other value where it ends. -/
def readObject (text : List Char) : Except ReadError (Metadata × Nat × List Char) :=
  let blanks := text.takeWhile isSpace
  if (text.dropWhile isSpace).head? = some '[' then
    .error (Fault.located ⟨.notObject "sequence", Text.byteLength blanks⟩ text)
  else
    match readFrom ⟨.value, []⟩ 0 (Text.byteLength text) text with
    | .ok (.object entries, index, rest) => .ok (entries, index, rest)
    | .ok (other, index, _) => .error (Fault.located ⟨.notObject (describe other), index⟩ text)
    | .error fault => .error (fault.located text)

def checkEnd (index : Nat) (rest : List Char) : Except Fault Unit :=
  match rest.dropWhile isSpace with
  | [] => .ok ()
  | _ :: _ => .error ⟨.trailingCharacters, index + Text.byteLength (rest.takeWhile isSpace) + 1⟩

def parse (text : String) : Except ReadError Json :=
  let chars := text.toList
  match readFrom ⟨.value, []⟩ 0 (Text.byteLength chars) chars with
  | .error fault => .error (fault.located chars)
  | .ok (value, index, rest) =>
      match checkEnd index rest with
      | .ok () => .ok value
      | .error fault => .error (fault.located chars)

def parseObject (text : String) : Except ReadError Metadata :=
  let chars := text.toList
  match readObject chars with
  | .error error => .error error
  | .ok (entries, index, rest) =>
      match checkEnd index rest with
      | .ok () => .ok entries
      | .error fault => .error (fault.located chars)

end LiteratePages.Json
