import LiteratePages.Code.Token
import LiteratePages.Text.Letters
import LiteratePages.Text.Bytes

/-!
Code as tokens. The text is read one character at a time; `Scan` says which token is under way, and
`tokenize` places the tokens of a text as if `base` bytes stood before it.
-/
namespace LiteratePages.Code

/-- What is under way, and the byte at which it started. Characters stand latest first. -/
inductive Scan where
  | between
  | comment
  | word (start : Nat) (chars : List Char)
  | digits (start : Nat) (whole : List Char)
  /-- Digits and a point, which only further digits make part of the number. -/
  | point (start : Nat) (whole : List Char)
  | fraction (start : Nat) (whole fraction : List Char)
  | relation (start : Nat) (first : Char)
  | pair (start : Nat) (first : Char)
  /-- Inside quotes; after a backslash any character is part of the body. -/
  | quoted (format : Bool) (start : Nat) (quote : Char) (opened : Nat) (escaped : Bool)
      (body : List Char)

structure LexState where
  /-- The tokens so far, the latest first. -/
  tokens : List Located
  /-- How many round and square brackets are open; a line feed inside them ends no statement. -/
  depth : Nat
  place : Nat
  scan : Scan

def unescapeChar (c : Char) : List Char :=
  match c with
  | 'n' => ['\n']
  | 't' => ['\t']
  | 'r' => ['\r']
  | '0' => ['\x00']
  | '\\' | '\'' | '"' | '\x7b' | '\x7d' => [c]
  | c => ['\\', c]

def unescape : List Char → List Char
  | [] => []
  | [c] => [c]
  | c :: next :: rest =>
      if c = '\\' then unescapeChar next ++ unescape rest else c :: unescape (next :: rest)

def wordToken (text : String) : Token :=
  match text with
  | "true" => .boolean true
  | "false" => .boolean false
  | "none" => .none
  | "if" => .ifWord
  | "else" => .elseWord
  | "for" => .forWord
  | "in" => .inWord
  | "and" => .operator .and true
  | "or" => .operator .or true
  | "not" => .not true
  | text => .name text

def relationToken (first : Char) (withEqual : Bool) : Token :=
  if first = '=' then if withEqual then .operator .equal false else .assign
  else if first = '!' then if withEqual then .operator .unequal false else .not false
  else if first = '>' then .operator (if withEqual then .greaterOrEqual else .greater) false
  else .operator (if withEqual then .lessOrEqual else .less) false

def pairToken (first : Char) : Token := .operator (if first = '&' then .and else .or) false

def charToken? (c : Char) : Option Token :=
  match c with
  | '+' => some (.operator .add false)
  | '-' => some .minus
  | '*' => some (.operator .multiply false)
  | '/' => some (.operator .divide false)
  | '%' => some (.operator .modulo false)
  | ',' => some .comma
  | ':' => some .colon
  | ';' => some .semicolon
  | '\x7b' => some .openBrace
  | '\x7d' => some .closeBrace
  | '(' => some .openParen
  | ')' => some .closeParen
  | '[' => some .openBracket
  | ']' => some .closeBracket
  | _ => none

/-- The depth after a bracket. A closing one with none open is left to the parser. -/
def bracketDepth (depth : Nat) (c : Char) : Nat :=
  if c = '(' ∨ c = '[' then depth + 1 else if c = ')' ∨ c = ']' then depth - 1 else depth

def startsName (c : Char) : Bool := c.isAlpha || c == '_'

def continuesName (c : Char) : Bool := Text.isAlphanumeric c || c == '_'

def isQuote (c : Char) : Bool := c == '"' || c == '\''

namespace LexState

/-- Ends a token before the next character. -/
def push (state : LexState) (token : Token) (start : Nat) : LexState :=
  { state with tokens := ⟨token, ⟨start, state.place⟩⟩ :: state.tokens, scan := .between }

def advance (state : LexState) (c : Char) (scan : Scan) : LexState :=
  { state with place := state.place + c.utf8Size, scan := scan }

/-- Takes the next character as the last of a token. -/
def close (state : LexState) (c : Char) (token : Token) (start : Nat) : LexState :=
  (state.advance c .between).push token start

/-- Takes a character with no token under way. -/
def start (state : LexState) (c : Char) : Except SyntaxError LexState :=
  let place := state.place
  if c = ' ' ∨ c = '\t' ∨ c = '\r' then .ok (state.advance c .between)
  else if c = '\n' then
    .ok (if state.depth = 0 then state.close c .newline place else state.advance c .between)
  else if c = '#' then .ok (state.advance c .comment)
  else if isQuote c then .ok (state.advance c (.quoted false place c (place + 1) false []))
  else if c.isDigit then .ok (state.advance c (.digits place [c]))
  else if startsName c then .ok (state.advance c (.word place [c]))
  else if c = '=' ∨ c = '!' ∨ c = '>' ∨ c = '<' then .ok (state.advance c (.relation place c))
  else if c = '&' ∨ c = '|' then .ok (state.advance c (.pair place c))
  else match charToken? c with
    | some token =>
        .ok { state.close c token place with depth := bracketDepth state.depth c }
    | none => .error ⟨.unexpectedCharacter c, ⟨place, place + c.utf8Size⟩⟩

def quotedToken (format : Bool) (opened : Nat) (body : List Char) : Token :=
  if format then .format body.reverse opened
  else .string (String.ofList (unescape body.reverse))

def numberToken (whole fraction : List Char) : Token :=
  .number (Number.ofDecimal whole.reverse fraction.reverse 0)

/-- Takes one character of a text that `base` bytes stand before. A string that a line feed breaks
off is noted up to that line feed as the text alone counts its bytes, and for one byte at least. -/
def step (base : Nat) (state : LexState) (c : Char) : Except SyntaxError LexState :=
  match state.scan with
  | .between => state.start c
  | .comment => if c = '\n' then state.start c else .ok (state.advance c .comment)
  | .word start chars =>
      if isQuote c ∧ chars = ['f'] then
        .ok (state.advance c (.quoted true start c (state.place + 1) false []))
      else if continuesName c then .ok (state.advance c (.word start (c :: chars)))
      else (state.push (wordToken (String.ofList chars.reverse)) start).start c
  | .digits start whole =>
      if c.isDigit then .ok (state.advance c (.digits start (c :: whole)))
      else if c = '.' then .ok (state.advance c (.point start whole))
      else (state.push (numberToken whole []) start).start c
  | .point start whole =>
      if c.isDigit then .ok (state.advance c (.fraction start whole [c]))
      else .error ⟨.unexpectedCharacter '.', ⟨state.place - 1, state.place⟩⟩
  | .fraction start whole fraction =>
      if c.isDigit then .ok (state.advance c (.fraction start whole (c :: fraction)))
      else (state.push (numberToken whole fraction) start).start c
  | .relation start first =>
      if c = '=' then .ok (state.close c (relationToken first true) start)
      else (state.push (relationToken first false) start).start c
  | .pair start first =>
      if c = first then .ok (state.close c (pairToken first) start)
      else .error ⟨.unexpectedCharacter first, ⟨start, start + 1⟩⟩
  | .quoted format start quote opened escaped body =>
      if escaped then .ok (state.advance c (.quoted format start quote opened false (c :: body)))
      else if c = quote then .ok (state.close c (quotedToken format opened body) start)
      else if c = '\n' then
        .error ⟨.unterminatedString, ⟨start, max (state.place - base) (start + 1)⟩⟩
      else .ok (state.advance c (.quoted format start quote opened (c = '\\') (c :: body)))

def finish (state : LexState) : Except SyntaxError (List Located) :=
  match state.scan with
  | .between | .comment => .ok state.tokens.reverse
  | .word start chars =>
      .ok (state.push (wordToken (String.ofList chars.reverse)) start).tokens.reverse
  | .digits start whole => .ok (state.push (numberToken whole []) start).tokens.reverse
  | .point _ _ => .error ⟨.unexpectedCharacter '.', ⟨state.place - 1, state.place⟩⟩
  | .fraction start whole fraction =>
      .ok (state.push (numberToken whole fraction) start).tokens.reverse
  | .relation start first =>
      .ok (state.push (relationToken first false) start).tokens.reverse
  | .pair start first => .error ⟨.unexpectedCharacter first, ⟨start, start + 1⟩⟩
  | .quoted _ start _ _ _ body =>
      .error ⟨.unterminatedString, ⟨start, start + Text.byteLength body + 1⟩⟩

def initial (base : Nat) : LexState := ⟨[], 0, base, .between⟩

def run (base : Nat) (state : LexState) (text : List Char) : Except SyntaxError LexState :=
  text.foldlM (step base) state

end LexState

def tokenize (base : Nat) (text : List Char) : Except SyntaxError (List Located) :=
  (LexState.run base (.initial base) text).bind LexState.finish

end LiteratePages.Code
