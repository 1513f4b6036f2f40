namespace LiteratePages.Json

inductive Cause where
  | endInValue
  | endInList
  | endInObject
  | endInString
  | expectedColon
  | expectedListEnd
  | expectedObjectEnd
  | keyNotString
  | trailingComma
  | expectedValue
  | expectedWord
  | invalidNumber
  | numberOutOfRange
  | controlCharacter
  | invalidEscape
  | unfinishedSurrogate
  | loneSurrogate
  | tooDeep
  | trailingCharacters
  | notObject (found : String)
  /-- More than blanks follows an object on its last line. -/
  | afterObject (text : String)
deriving Repr, DecidableEq

inductive Category where
  | syntactic
  | endOfInput
  | data
deriving Repr, DecidableEq

def Cause.category : Cause → Category
  | .endInValue | .endInList | .endInObject | .endInString => .endOfInput
  | .notObject _ | .afterObject _ => .data
  | _ => .syntactic

def Cause.message : Cause → String
  | .endInValue => "EOF while parsing a value"
  | .endInList => "EOF while parsing a list"
  | .endInObject => "EOF while parsing an object"
  | .endInString => "EOF while parsing a string"
  | .expectedColon => "expected `:`"
  | .expectedListEnd => "expected `,` or `]`"
  | .expectedObjectEnd => "expected `,` or `\x7d`"
  | .keyNotString => "key must be a string"
  | .trailingComma => "trailing comma"
  | .expectedValue => "expected value"
  | .expectedWord => "expected ident"
  | .invalidNumber => "invalid number"
  | .numberOutOfRange => "number out of range"
  | .controlCharacter => "control character (\\u0000-\\u001F) found while parsing a string"
  | .invalidEscape => "invalid escape"
  | .unfinishedSurrogate => "unexpected end of hex escape"
  | .loneSurrogate => "lone leading surrogate in hex escape"
  | .tooDeep => "recursion limit exceeded"
  | .trailingCharacters => "trailing characters"
  | .notObject found => "invalid type: " ++ found ++ ", expected a map"
  | .afterObject text => "unexpected `" ++ text ++ "` after the metadata object"

/-- A failure and the byte at which it is noted. -/
structure Fault where
  cause : Cause
  index : Nat

/-- A failure to read, with the line and column it is noted at unless it concerns a whole text. -/
structure ReadError where
  cause : Cause
  place : Option (Nat × Nat)
deriving Repr, DecidableEq

/-- The line, from one, and the byte of the line at which byte `index` of a text lies. -/
def placeFrom (line column : Nat) : Nat → List Char → Nat × Nat
  | _, [] => (line, column)
  | index, c :: rest =>
      if index < c.utf8Size then (line, column + index)
      else if c = '\n' then placeFrom (line + 1) 0 (index - c.utf8Size) rest
      else placeFrom line (column + c.utf8Size) (index - c.utf8Size) rest

def Fault.located (fault : Fault) (text : List Char) : ReadError :=
  ⟨fault.cause, some (placeFrom 1 0 fault.index text)⟩

def ReadError.message (error : ReadError) : String :=
  match error.place with
  | none => error.cause.message
  | some (line, column) =>
      error.cause.message ++ " at line " ++ toString line ++ " column " ++ toString column

end LiteratePages.Json
