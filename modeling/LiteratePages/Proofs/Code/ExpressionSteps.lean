import LiteratePages.Code.Expression
import LiteratePages.Proofs.Agreement

/-!
What one token can do to an expression that is being read. Proofs about expressions go through these
ways and not through the parser itself.
-/
namespace LiteratePages.Code

/-- A token that cannot be read is noted, or what is wrong inside the format string that it is. -/
def SyntaxError.RaisedAt (format : List Char → Nat → Except SyntaxError (List Piece))
    (next : Located) (error : SyntaxError) : Prop :=
  error.span = next.span ∨
    ∃ body place, next.token = .format body place ∧ format body place = .error error

namespace ExprState

/-- What an operand would stand inside of, in a phase in which one may come. -/
def operandFrames : ExprState → Option (List Frame)
  | ⟨.operand, frames⟩ => some frames
  | ⟨.item start items, frames⟩ => some (.list start items :: frames)
  | ⟨.argument start callee arguments, frames⟩ => some (.call start callee arguments :: frames)
  | ⟨.key start entries, frames⟩ => some (.key start entries :: frames)
  | ⟨.entry start entries label, frames⟩ => some (.entry start entries label :: frames)
  | ⟨.colon .., _⟩ | ⟨.entryEnd .., _⟩ | ⟨.after .., _⟩ => none

inductive Step (format : List Char → Nat → Except SyntaxError (List Piece)) :
    ExprState → Located → ExprMove → Prop where
  | operand {state after : ExprState} {frames : List Frame} {next : Located}
      (wanted : state.operandFrames = some frames)
      (started : startOperand format frames next = .ok after) : Step format state next (.more after)
  | listEnd (start : Nat) (items : List Expr) (frames : List Frame) (span : Span) :
      Step format ⟨.item start items, frames⟩ ⟨.closeBracket, span⟩
        (.more ⟨.after (.list items) start, frames⟩)
  | callEnd (start : Nat) (callee : Expr) (arguments : List Expr) (frames : List Frame)
      (span : Span) :
      Step format ⟨.argument start callee arguments, frames⟩ ⟨.closeParen, span⟩
        (.more ⟨.after (.call callee arguments ⟨start, span.stop⟩) start, frames⟩)
  | keyLine (start : Nat) (entries : List (Expr × Expr)) (frames : List Frame) (span : Span) :
      Step format ⟨.key start entries, frames⟩ ⟨.newline, span⟩ (.more ⟨.key start entries, frames⟩)
  | mapEnd (start : Nat) (entries : List (Expr × Expr)) (frames : List Frame) (span : Span) :
      Step format ⟨.key start entries, frames⟩ ⟨.closeBrace, span⟩
        (.more ⟨.after (.map entries) start, frames⟩)
  | colonLine (start : Nat) (entries : List (Expr × Expr)) (label : Expr) (frames : List Frame)
      (span : Span) :
      Step format ⟨.colon start entries label, frames⟩ ⟨.newline, span⟩
        (.more ⟨.colon start entries label, frames⟩)
  | colon (start : Nat) (entries : List (Expr × Expr)) (label : Expr) (frames : List Frame)
      (span : Span) :
      Step format ⟨.colon start entries label, frames⟩ ⟨.colon, span⟩
        (.more ⟨.entry start entries label, frames⟩)
  | entryLine (start : Nat) (entries : List (Expr × Expr)) (label : Expr) (frames : List Frame)
      (span : Span) :
      Step format ⟨.entry start entries label, frames⟩ ⟨.newline, span⟩
        (.more ⟨.entry start entries label, frames⟩)
  | entryEndLine (start : Nat) (entries : List (Expr × Expr)) (frames : List Frame) (span : Span) :
      Step format ⟨.entryEnd start entries, frames⟩ ⟨.newline, span⟩
        (.more ⟨.entryEnd start entries, frames⟩)
  | entryComma (start : Nat) (entries : List (Expr × Expr)) (frames : List Frame) (span : Span) :
      Step format ⟨.entryEnd start entries, frames⟩ ⟨.comma, span⟩
        (.more ⟨.key start entries, frames⟩)
  | entriesEnd (start : Nat) (entries : List (Expr × Expr)) (frames : List Frame) (span : Span) :
      Step format ⟨.entryEnd start entries, frames⟩ ⟨.closeBrace, span⟩
        (.more ⟨.after (.map entries) start, frames⟩)
  | call (e : Expr) (start : Nat) (frames : List Frame) (span : Span) :
      Step format ⟨.after e start, frames⟩ ⟨.openParen, span⟩ (.more ⟨.argument start e [], frames⟩)
  | index (e : Expr) (start : Nat) (frames : List Frame) (span : Span) :
      Step format ⟨.after e start, frames⟩ ⟨.openBracket, span⟩
        (.more ⟨.operand, .index start e :: frames⟩)
  | sign {sign : Token} {op : Binary} (worded : sign.binary? = some op) (e : Expr) (start : Nat)
      (frames : List Frame) (span : Span) :
      Step format ⟨.after e start, frames⟩ ⟨sign, span⟩
        (.more ⟨.operand, .binary op (reduce op.level frames e).1 :: (reduce op.level frames e).2⟩)
  | close {e : Expr} {frames : List Frame} {next : Located} {move : ExprMove} (start : Nat)
      (closed : closeFrame (reduce 0 frames e).1 (reduce 0 frames e).2 next = .ok move) :
      Step format ⟨.after e start, frames⟩ next move

variable {format : List Char → Nat → Except SyntaxError (List Piece)} {state : ExprState}
  {next : Located} {move : ExprMove} {frames : List Frame} {e : Expr}

theorem step_of_feed (read : state.feed format next = .ok move) : Step format state next move := by
  -- In most phases all but a few tokens start an operand.
  have operand : ∀ {frames}, state.operandFrames = some frames →
      (startOperand format frames next).map ExprMove.more = .ok move →
        Step format state next move := by
    intro frames wanted begun
    obtain ⟨after, started, rfl⟩ := map_eq_ok.mp begun
    exact .operand wanted started
  obtain ⟨phase, frames⟩ := state
  obtain ⟨token, span⟩ := next
  cases phase with
  | operand => exact operand rfl read
  | item start items =>
      cases token with
      | closeBracket =>
          cases read
          exact .listEnd ..
      | _ => exact operand rfl read
  | argument start callee arguments =>
      cases token with
      | closeParen =>
          cases read
          exact .callEnd ..
      | _ => exact operand rfl read
  | key start entries =>
      cases token with
      | newline =>
          cases read
          exact .keyLine ..
      | closeBrace =>
          cases read
          exact .mapEnd ..
      | _ => exact operand rfl read
  | colon start entries label =>
      cases token with
      | newline =>
          cases read
          exact .colonLine ..
      | colon =>
          cases read
          exact .colon ..
      | _ => cases read
  | entry start entries label =>
      cases token with
      | newline =>
          cases read
          exact .entryLine ..
      | _ => exact operand rfl read
  | entryEnd start entries =>
      cases token with
      | newline =>
          cases read
          exact .entryEndLine ..
      | comma =>
          cases read
          exact .entryComma ..
      | closeBrace =>
          cases read
          exact .entriesEnd ..
      | _ => cases read
  | after e start =>
      cases token with
      | openParen =>
          cases read
          exact .call ..
      | openBracket =>
          cases read
          exact .index ..
      | minus =>
          cases read
          exact .sign rfl e start frames span
      | operator op word =>
          cases read
          exact .sign rfl e start frames span
      | _ => exact .close start read

theorem startOperand_eq_error {error : SyntaxError}
    (failed : startOperand format frames next = .error error) : error.RaisedAt format next := by
  obtain ⟨token, span⟩ := next
  cases token with
  | format body place =>
      unfold startOperand at failed
      dsimp only at failed
      split at failed
      · cases failed
      · rename_i read
        cases failed
        exact .inr ⟨body, place, rfl, read⟩
  | minus | not | number | string | boolean | none | name | openParen | openBracket | openBrace =>
      cases failed
  | _ =>
      cases failed
      exact .inl rfl

theorem closeFrame_eq_error {error : SyntaxError}
    (failed : closeFrame e frames next = .error error) : error.span = next.span := by
  obtain ⟨token, span⟩ := next
  cases frames with
  | nil => cases failed
  | cons frame rest =>
      cases frame <;> cases token <;> first | (cases failed; done) | (cases failed; rfl)

theorem feed_eq_error {error : SyntaxError} (failed : state.feed format next = .error error) :
    error.RaisedAt format next := by
  have operand : ∀ frames, (startOperand format frames next).map ExprMove.more = .error error →
      error.RaisedAt format next := by
    intro frames begun
    cases started : startOperand format frames next with
    | ok =>
        rw [started] at begun
        cases begun
    | error =>
        rw [started] at begun
        cases begun
        exact startOperand_eq_error started
  obtain ⟨phase, frames⟩ := state
  obtain ⟨token, span⟩ := next
  cases phase with
  | operand => exact operand frames failed
  | item start items =>
      cases token with
      | closeBracket => cases failed
      | _ => exact operand (.list start items :: frames) failed
  | argument start callee arguments =>
      cases token with
      | closeParen => cases failed
      | _ => exact operand (.call start callee arguments :: frames) failed
  | key start entries =>
      cases token with
      | newline | closeBrace => cases failed
      | _ => exact operand (.key start entries :: frames) failed
  | entry start entries label =>
      cases token with
      | newline => cases failed
      | _ => exact operand (.entry start entries label :: frames) failed
  | colon =>
      cases token with
      | newline | colon => cases failed
      | _ =>
          cases failed
          exact .inl rfl
  | entryEnd =>
      cases token with
      | newline | comma | closeBrace => cases failed
      | _ =>
          cases failed
          exact .inl rfl
  | after =>
      cases token with
      | openParen | openBracket | minus | operator => cases failed
      | _ => exact .inl (closeFrame_eq_error failed)

end ExprState
end LiteratePages.Code
