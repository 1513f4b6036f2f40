import LiteratePages.Code.Syntax
import LiteratePages.Number.Decimal

namespace LiteratePages.Code

inductive Token where
  | number (value : Float)
  | string (value : String)
  /-- The body of a format string as it is written, and the byte at which it starts. -/
  | format (body : List Char) (start : Nat)
  | boolean (value : Bool)
  | none
  | name (text : String)
  | ifWord
  | elseWord
  | forWord
  | inWord
  /-- A binary operator, except the minus sign. `&&` and `and` differ only in their wording, as do
  `||` and `or`. -/
  | operator (op : Binary) (word : Bool)
  | minus
  | not (word : Bool)
  | assign
  | comma
  | colon
  | semicolon
  | newline
  | openParen
  | closeParen
  | openBracket
  | closeBracket
  | openBrace
  | closeBrace

structure Located where
  token : Token
  span : Span

def Token.binary? : Token → Option Binary
  | .operator op _ => some op
  | .minus => some .subtract
  | _ => Option.none

/-- A token as a message names it. -/
def Token.describe : Token → String
  | .newline => "end of line"
  | .name text => "identifier '" ++ text ++ "'"
  | .number value => "number " ++ Number.text value
  | .string _ | .format .. => "string"
  | .boolean true => "True"
  | .boolean false => "False"
  | .none => "NoneLit"
  | .ifWord => "If"
  | .elseWord => "Else"
  | .forWord => "For"
  | .inWord => "In"
  | .operator .and true => "And"
  | .operator .and false => "AmpAmp"
  | .operator .or true => "Or"
  | .operator .or false => "PipePipe"
  | .operator .add _ => "Plus"
  | .operator .subtract _ | .minus => "Minus"
  | .operator .multiply _ => "Star"
  | .operator .divide _ => "Slash"
  | .operator .modulo _ => "Percent"
  | .operator .equal _ => "EqEq"
  | .operator .unequal _ => "BangEq"
  | .operator .greater _ => "Gt"
  | .operator .less _ => "Lt"
  | .operator .greaterOrEqual _ => "GtEq"
  | .operator .lessOrEqual _ => "LtEq"
  | .not true => "Not"
  | .not false => "Bang"
  | .assign => "Eq"
  | .comma => "Comma"
  | .colon => "Colon"
  | .semicolon => "Semicolon"
  | .openParen => "LParen"
  | .closeParen => "RParen"
  | .openBracket => "LBracket"
  | .closeBracket => "RBracket"
  | .openBrace => "LBrace"
  | .closeBrace => "RBrace"

inductive Wanted where
  | closeParen
  | closeBracket
  | colonAfterKey
  | openBlock
  | wordIn
deriving Repr, DecidableEq

def Wanted.describe : Wanted → String
  | .closeParen => "')'"
  | .closeBracket => "']'"
  | .colonAfterKey => "':' after map key"
  | .openBlock => "'\x7b' to open block"
  | .wordIn => "'in'"

inductive SyntaxCause where
  | unterminatedString
  | unexpectedCharacter (c : Char)
  | expressionEnds
  | expectedExpression (found : Token)
  /-- The wanted token, and the one found unless the code ends. -/
  | expected (wanted : Wanted) (found : Option Token)
  | expectedName
  /-- Neither a comma nor the bracket that closes a list or a call. -/
  | expectedItemEnd (close : Wanted)
  | expectedEntryEnd
  | invalidTarget
  | strayElse
  | unclosedBlock
  | expectedStatementEnd (found : Token)
  | unclosedBrace
  | leftoverTokens

structure SyntaxError where
  cause : SyntaxCause
  span : Span

def SyntaxCause.message : SyntaxCause → String
  | .unterminatedString => "unterminated string literal"
  | .unexpectedCharacter c => "unexpected character '" ++ String.singleton c ++ "'"
  | .expressionEnds => "unexpected end of expression"
  | .expectedExpression found => "expected expression, found " ++ found.describe
  | .expected wanted (some found) =>
      "expected " ++ wanted.describe ++ ", found " ++ found.describe
  | .expected wanted none => "expected " ++ wanted.describe ++ ", found end of code"
  | .expectedName => "expected identifier"
  | .expectedItemEnd close => "expected ',' or " ++ close.describe
  | .expectedEntryEnd => "expected ',' or '\x7d' in map literal"
  | .invalidTarget => "invalid assignment target"
  | .strayElse => "'else' without a matching 'if'"
  | .unclosedBlock => "expected '\x7d' to close block"
  | .expectedStatementEnd found => "expected end of statement, found " ++ found.describe
  | .unclosedBrace => "unclosed '\x7b' in format string"
  | .leftoverTokens => "unexpected tokens in format string expression"

def SyntaxCause.notes : SyntaxCause → List String
  | .unexpectedCharacter c =>
      if c = '&' ∨ c = '|' then
        ["did you mean '" ++ String.ofList [c, c] ++ "'?"]
      else []
  | .invalidTarget => ["only plain variable names can be assigned to"]
  | _ => []

def SyntaxError.message (error : SyntaxError) : String := "parse error: " ++ error.cause.message

end LiteratePages.Code
