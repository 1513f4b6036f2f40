import LiteratePages.Code.Expression
import LiteratePages.Code.Lexer

namespace LiteratePages.Code

/-- A part of the body of a format string, before its code is parsed. -/
inductive RawPiece where
  | text (chars : List Char)
  /-- Code that starts `start` bytes into the body. -/
  | code (start : Nat) (chars : List Char)
  | unclosed (start : Nat)
deriving Repr, DecidableEq

/-- What is being read of a body. Characters stand latest first. -/
inductive BodyScan where
  | text (chars : List Char)
  | escape (chars : List Char)
  /-- Inside `depth + 1` braces, the outermost of which is at byte `opened`. -/
  | code (opened : Nat) (depth : Nat) (chars : List Char)

def textPiece (chars : List Char) : List RawPiece :=
  if chars.isEmpty then [] else [.text chars.reverse]

def splitBody (scan : BodyScan) (place : Nat) : List Char → List RawPiece
  | [] => match scan with
      | .text chars => textPiece chars
      | .escape chars => textPiece ('\\' :: chars)
      | .code opened _ _ => [.unclosed opened]
  | c :: rest =>
      let next := place + c.utf8Size
      match scan with
      | .text chars =>
          if c = '\\' then splitBody (.escape chars) next rest
          else if c = '\x7b' then textPiece chars ++ splitBody (.code place 0 []) next rest
          else splitBody (.text (c :: chars)) next rest
      | .escape chars => splitBody (.text ((unescapeChar c).reverse ++ chars)) next rest
      | .code opened depth chars =>
          if c = '\x7b' then splitBody (.code opened (depth + 1) (c :: chars)) next rest
          else if c = '\x7d' then
            match depth with
            | 0 => .code (opened + 1) chars.reverse :: splitBody (.text []) next rest
            | depth + 1 => splitBody (.code opened depth (c :: chars)) next rest
          else splitBody (.code opened depth (c :: chars)) next rest

/-- Parses the body of a format string that starts at byte `start`. Code in it may hold format
strings in turn; `levels` bounds how deeply, and a body of no more than that many characters never
reaches the bound. -/
def formatPieces : (levels : Nat) → (body : List Char) → (start : Nat) →
    Except SyntaxError (List Piece)
  | 0, body, _ => .ok [.text (String.ofList body)]
  | levels + 1, body, start =>
      let piece : RawPiece → Except SyntaxError Piece
        | .text chars => .ok (.text (String.ofList chars))
        | .code place chars =>
            let base := start + place
            match tokenize base chars with
            | .error error => .error error
            | .ok tokens =>
                let stop := base + Text.byteLength chars
                match ExprState.initial.readAll (formatPieces levels) stop tokens with
                | .error error => .error error
                | .ok e => .ok (.code e)
        | .unclosed place => .error ⟨.unclosedBrace, ⟨start + place, start + Text.byteLength body⟩⟩
      match (splitBody (.text []) 0 body).mapM piece with
      | .error error => .error error
      | .ok [] => .ok [.text ""]
      | .ok pieces => .ok pieces

def readFormat (body : List Char) (start : Nat) : Except SyntaxError (List Piece) :=
  formatPieces body.length body start

end LiteratePages.Code
