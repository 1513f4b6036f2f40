import LiteratePages.Code.Token

/-!
Expressions from tokens, one token at a time. A state holds what is open around the place that has
been reached; an operator closes those open ones that bind more tightly than itself. The token that
an expression does not take ends it.
-/
namespace LiteratePages.Code

/-- What is open around the expression being read. -/
inductive Frame where
  /-- An operator before its operand, and how tightly it binds. -/
  | unary (op : Unary) (level : Nat)
  | binary (op : Binary) (left : Expr)
  | group (start : Nat)
  | list (start : Nat) (items : List Expr)
  | call (start : Nat) (callee : Expr) (arguments : List Expr)
  | index (start : Nat) (target : Expr)
  | key (start : Nat) (entries : List (Expr × Expr))
  | entry (start : Nat) (entries : List (Expr × Expr)) (key : Expr)

inductive ExprPhase where
  | operand
  /-- Before an item of a list or the end of the list. -/
  | item (start : Nat) (items : List Expr)
  | argument (start : Nat) (callee : Expr) (arguments : List Expr)
  /-- Before a key of a map or the end of the map; ends of lines are passed over. -/
  | key (start : Nat) (entries : List (Expr × Expr))
  /-- On a later line than a key. -/
  | colon (start : Nat) (entries : List (Expr × Expr)) (key : Expr)
  /-- After a colon; ends of lines are passed over. -/
  | entry (start : Nat) (entries : List (Expr × Expr)) (key : Expr)
  /-- On a later line than an entry. -/
  | entryEnd (start : Nat) (entries : List (Expr × Expr))
  | after (operand : Expr) (start : Nat)

structure ExprState where
  phase : ExprPhase
  frames : List Frame

/-- The result of one token: the expression goes on, or it ended before the token. -/
inductive ExprMove where
  | more (state : ExprState)
  | done (value : Expr)

def signLevel : Nat := 13

def notLevel : Nat := 4

/-- Closes the open operators that bind more tightly than `level`. Of operators of one level the
left one is closed first. -/
def reduce (level : Nat) : List Frame → Expr → Expr × List Frame
  | .unary op own :: rest, e =>
      if level < own then reduce level rest (.unary op e) else (e, .unary op own :: rest)
  | .binary op left :: rest, e =>
      if level ≤ op.level then reduce level rest (.binary op left e) else (e, .binary op left :: rest)
  | frames, e => (e, frames)

/-- What is wrong when neither an operator nor the end of `frame` follows an expression. -/
def Frame.unfinished (frame : Frame) (found : Option Token) : SyntaxCause :=
  match frame with
  | .group _ => .expected .closeParen found
  | .list .. => .expectedItemEnd .closeBracket
  | .call .. => .expectedItemEnd .closeParen
  | .index .. => .expected .closeBracket found
  | .key .. => .expected .colonAfterKey found
  | .entry .. => .expectedEntryEnd
  | .unary .. | .binary .. => .expressionEnds

namespace ExprState

def initial : ExprState := ⟨.operand, []⟩

/-- Reads the first token of an operand. `format` reads the body of a format string. -/
def startOperand (format : List Char → Nat → Except SyntaxError (List Piece))
    (frames : List Frame) (next : Located) : Except SyntaxError ExprState :=
  let start := next.span.start
  let operand (e : Expr) : Except SyntaxError ExprState := .ok ⟨.after e start, frames⟩
  match next.token with
  | .minus => .ok ⟨.operand, .unary .negation signLevel :: frames⟩
  | .not word => .ok ⟨.operand, .unary .logicalNot (if word then notLevel else signLevel) :: frames⟩
  | .number value => operand (.number value)
  | .string value => operand (.string value)
  | .format body place => match format body place with
      | .ok pieces => operand (.format pieces)
      | .error error => .error error
  | .boolean value => operand (.boolean value)
  | .none => operand .none
  | .name text => operand (.variable text next.span)
  | .openParen => .ok ⟨.operand, .group start :: frames⟩
  | .openBracket => .ok ⟨.item start [], frames⟩
  | .openBrace => .ok ⟨.key start [], frames⟩
  | other => .error ⟨.expectedExpression other, next.span⟩

/-- Reads the token after an expression with all its operators closed. -/
def closeFrame (e : Expr) (frames : List Frame) (next : Located) : Except SyntaxError ExprMove :=
  let stop := next.span.stop
  let more (phase : ExprPhase) (rest : List Frame) : Except SyntaxError ExprMove :=
    .ok (.more ⟨phase, rest⟩)
  match frames with
  | [] => .ok (.done e)
  | frame :: rest =>
      match frame, next.token with
      | .group start, .closeParen => more (.after e start) rest
      | .list start items, .comma => more (.item start (items ++ [e])) rest
      | .list start items, .closeBracket => more (.after (.list (items ++ [e])) start) rest
      | .call start callee arguments, .comma =>
          more (.argument start callee (arguments ++ [e])) rest
      | .call start callee arguments, .closeParen =>
          more (.after (.call callee (arguments ++ [e]) ⟨start, stop⟩) start) rest
      | .index start target, .closeBracket =>
          more (.after (.index target e ⟨start, stop⟩) start) rest
      | .key start entries, .newline => more (.colon start entries e) rest
      | .key start entries, .colon => more (.entry start entries e) rest
      | .entry start entries key, .newline => more (.entryEnd start (entries ++ [(key, e)])) rest
      | .entry start entries key, .comma => more (.key start (entries ++ [(key, e)])) rest
      | .entry start entries key, .closeBrace =>
          more (.after (.map (entries ++ [(key, e)])) start) rest
      | frame, token => .error ⟨frame.unfinished (some token), next.span⟩

def feed (format : List Char → Nat → Except SyntaxError (List Piece)) (state : ExprState)
    (next : Located) : Except SyntaxError ExprMove :=
  let frames := state.frames
  let stop := next.span.stop
  let more (phase : ExprPhase) : Except SyntaxError ExprMove := .ok (.more ⟨phase, frames⟩)
  let operand (frames : List Frame) : Except SyntaxError ExprMove :=
    (startOperand format frames next).map .more
  match state.phase with
  | .operand => operand frames
  | .item start items => match next.token with
      | .closeBracket => more (.after (.list items) start)
      | _ => operand (.list start items :: frames)
  | .argument start callee arguments => match next.token with
      | .closeParen => more (.after (.call callee arguments ⟨start, stop⟩) start)
      | _ => operand (.call start callee arguments :: frames)
  | .key start entries => match next.token with
      | .newline => more (.key start entries)
      | .closeBrace => more (.after (.map entries) start)
      | _ => operand (.key start entries :: frames)
  | .colon start entries key => match next.token with
      | .newline => more (.colon start entries key)
      | .colon => more (.entry start entries key)
      | token => .error ⟨.expected .colonAfterKey (some token), next.span⟩
  | .entry start entries key => match next.token with
      | .newline => more (.entry start entries key)
      | _ => operand (.entry start entries key :: frames)
  | .entryEnd start entries => match next.token with
      | .newline => more (.entryEnd start entries)
      | .comma => more (.key start entries)
      | .closeBrace => more (.after (.map entries) start)
      | _ => .error ⟨.expectedEntryEnd, next.span⟩
  | .after e start => match next.token with
      | .openParen => more (.argument start e [])
      | .openBracket => .ok (.more ⟨.operand, .index start e :: frames⟩)
      | token => match token.binary? with
          | some op =>
              let (left, outer) := reduce op.level frames e
              .ok (.more ⟨.operand, .binary op left :: outer⟩)
          | none =>
              let (whole, outer) := reduce 0 frames e
              closeFrame whole outer next

def finish (state : ExprState) : Except SyntaxCause Expr :=
  match state.phase with
  | .operand | .item .. | .argument .. | .key .. | .entry .. => .error .expressionEnds
  | .colon .. => .error (.expected .colonAfterKey none)
  | .entryEnd .. => .error .expectedEntryEnd
  | .after e _ => match reduce 0 state.frames e with
      | (whole, []) => .ok whole
      | (_, frame :: _) => .error (frame.unfinished none)

/-- Reads tokens that make up one expression and nothing more. -/
def readAll (format : List Char → Nat → Except SyntaxError (List Piece)) (stop : Nat) :
    ExprState → List Located → Except SyntaxError Expr
  | state, [] => match state.finish with
      | .ok e => .ok e
      | .error cause => .error ⟨cause, ⟨stop, stop⟩⟩
  | state, next :: rest => match state.feed format next with
      | .ok (.more state) => readAll format stop state rest
      | .ok (.done _) => .error ⟨.leftoverTokens, next.span⟩
      | .error error => .error error

end ExprState
end LiteratePages.Code
