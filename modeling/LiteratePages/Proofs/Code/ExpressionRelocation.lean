import LiteratePages.Code.Format
import LiteratePages.Proofs.Code.LexerShift

namespace LiteratePages.Code

def Frame.relocate (move : Nat → Nat) : Frame → Frame
  | .unary op level => .unary op level
  | .binary op left => .binary op (left.relocate move)
  | .group start => .group (move start)
  | .list start items => .list (move start) (relocateAll move items)
  | .call start callee arguments =>
      .call (move start) (callee.relocate move) (relocateAll move arguments)
  | .index start target => .index (move start) (target.relocate move)
  | .key start entries => .key (move start) (relocateEntries move entries)
  | .entry start entries label =>
      .entry (move start) (relocateEntries move entries) (label.relocate move)

def ExprPhase.relocate (move : Nat → Nat) : ExprPhase → ExprPhase
  | .operand => .operand
  | .item start items => .item (move start) (relocateAll move items)
  | .argument start callee arguments =>
      .argument (move start) (callee.relocate move) (relocateAll move arguments)
  | .key start entries => .key (move start) (relocateEntries move entries)
  | .colon start entries label =>
      .colon (move start) (relocateEntries move entries) (label.relocate move)
  | .entry start entries label =>
      .entry (move start) (relocateEntries move entries) (label.relocate move)
  | .entryEnd start entries => .entryEnd (move start) (relocateEntries move entries)
  | .after e start => .after (e.relocate move) (move start)

def ExprState.relocate (move : Nat → Nat) (state : ExprState) : ExprState :=
  ⟨state.phase.relocate move, state.frames.map (Frame.relocate move)⟩

def ExprMove.relocate (move : Nat → Nat) : ExprMove → ExprMove
  | .more state => .more (state.relocate move)
  | .done value => .done (value.relocate move)

/-- One reader of format strings reads at moved places what the other reads. -/
def FormatAgrees (move : Nat → Nat)
    (format other : List Char → Nat → Except SyntaxError (List Piece)) : Prop :=
  ∀ body start, (other body (move start)).toOption =
    (format body start).toOption.map (List.map (Piece.relocate move))

/-- If `next` is a format string, both readers agree on it. -/
def FormatAgreesOn (move : Nat → Nat)
    (format other : List Char → Nat → Except SyntaxError (List Piece)) (next : Located) : Prop :=
  ∀ body start, next.token = .format body start → (other body (move start)).toOption =
    (format body start).toOption.map (List.map (Piece.relocate move))

variable {move : Nat → Nat} {format other : List Char → Nat → Except SyntaxError (List Piece)}

theorem FormatAgrees.on (agrees : FormatAgrees move format other) (next : Located) :
    FormatAgreesOn move format other next :=
  fun body start _ => agrees body start

theorem reduce_relocate (level : Nat) (frames : List Frame) (e : Expr) :
    reduce level (frames.map (Frame.relocate move)) (e.relocate move) =
      ((reduce level frames e).1.relocate move,
        (reduce level frames e).2.map (Frame.relocate move)) := by
  induction frames generalizing e with
  | nil => rfl
  | cons frame rest ih =>
      cases frame with
      | unary op own =>
          simp only [List.map_cons, Frame.relocate, reduce]
          split
          · exact ih (.unary op e)
          · rfl
      | binary op left =>
          simp only [List.map_cons, Frame.relocate, reduce]
          split
          · exact ih (.binary op left e)
          · rfl
      | _ => rfl

namespace ExprState

theorem startOperand_relocate {next : Located} (agrees : FormatAgreesOn move format other next)
    (frames : List Frame) :
    (startOperand other (frames.map (Frame.relocate move)) (next.relocate move)).toOption =
      (startOperand format frames next).toOption.map (ExprState.relocate move) := by
  obtain ⟨token, span⟩ := next
  cases token with
  | format body start =>
      simp only [startOperand, Located.relocate, Token.relocate]
      rcases outcomes_of_toOption (agrees body start rfl) with
        ⟨pieces, read, moved⟩ | ⟨_, _, read, moved⟩
      · rw [read, moved]
        simp only [Except.toOption, Option.map_some, relocate, ExprPhase.relocate, Expr.relocate,
          relocatePieces_eq_map]
        rfl
      · rw [read, moved]
        rfl
  | _ => rfl

theorem closeFrame_relocate (e : Expr) (frames : List Frame) (next : Located) :
    (closeFrame (e.relocate move) (frames.map (Frame.relocate move))
      (next.relocate move)).toOption =
      (closeFrame e frames next).toOption.map (ExprMove.relocate move) := by
  obtain ⟨token, span⟩ := next
  cases frames with
  | nil => rfl
  | cons frame rest =>
      cases frame with
      | unary op level => cases token <;> rfl
      | binary op left => cases token <;> rfl
      | group start => cases token <;> rfl
      | list start items =>
          cases token with
          | comma | closeBracket =>
              simp [closeFrame, Located.relocate, Token.relocate, Frame.relocate, Except.toOption,
                ExprMove.relocate, relocate, ExprPhase.relocate, Expr.relocate]
          | _ => rfl
      | call start callee arguments =>
          cases token with
          | comma | closeParen =>
              simp [closeFrame, Located.relocate, Token.relocate, Frame.relocate, Except.toOption,
                ExprMove.relocate, relocate, ExprPhase.relocate, Expr.relocate, Span.relocate]
          | _ => rfl
      | index start target => cases token <;> rfl
      | key start entries => cases token <;> rfl
      | entry start entries label =>
          cases token with
          | newline | comma | closeBrace =>
              simp [closeFrame, Located.relocate, Token.relocate, Frame.relocate, Except.toOption,
                ExprMove.relocate, relocate, ExprPhase.relocate, Expr.relocate]
          | _ => rfl

/-- Reading one token gives the moved state, or the moved expression before the moved token. -/
theorem feed_relocate {next : Located} (agrees : FormatAgreesOn move format other next)
    (state : ExprState) :
    ((state.relocate move).feed other (next.relocate move)).toOption =
      (state.feed format next).toOption.map (ExprMove.relocate move) := by
  have operand : ∀ frames, ((startOperand other (frames.map (Frame.relocate move))
      (next.relocate move)).map ExprMove.more).toOption =
        ((startOperand format frames next).map ExprMove.more).toOption.map
          (ExprMove.relocate move) := by
    intro frames
    exact bind_toOption (startOperand_relocate agrees frames) fun _ => rfl
  obtain ⟨phase, frames⟩ := state
  cases phase with
  | operand => exact operand frames
  | item start items =>
      have first := operand (.list start items :: frames)
      obtain ⟨token, span⟩ := next
      cases token with
      | closeBracket => rfl
      | _ => exact first
  | argument start callee arguments =>
      have first := operand (.call start callee arguments :: frames)
      obtain ⟨token, span⟩ := next
      cases token with
      | closeParen => rfl
      | _ => exact first
  | key start entries =>
      have first := operand (.key start entries :: frames)
      obtain ⟨token, span⟩ := next
      cases token with
      | newline | closeBrace => rfl
      | _ => exact first
  | colon start entries label =>
      obtain ⟨token, span⟩ := next
      cases token <;> rfl
  | entry start entries label =>
      have first := operand (.entry start entries label :: frames)
      obtain ⟨token, span⟩ := next
      cases token with
      | newline => rfl
      | _ => exact first
  | entryEnd start entries =>
      obtain ⟨token, span⟩ := next
      cases token <;> rfl
  | after e start =>
      have closed : (closeFrame (reduce 0 (frames.map (Frame.relocate move)) (e.relocate move)).1
          (reduce 0 (frames.map (Frame.relocate move)) (e.relocate move)).2
          (next.relocate move)).toOption =
            (closeFrame (reduce 0 frames e).1 (reduce 0 frames e).2 next).toOption.map
              (ExprMove.relocate move) := by
        rw [reduce_relocate]
        exact closeFrame_relocate ..
      have binary : ∀ op : Binary,
          (ExprMove.more ⟨.operand, .binary op
            (reduce op.level (frames.map (Frame.relocate move)) (e.relocate move)).1 ::
            (reduce op.level (frames.map (Frame.relocate move)) (e.relocate move)).2⟩) =
          (ExprMove.more ⟨.operand, .binary op (reduce op.level frames e).1 ::
            (reduce op.level frames e).2⟩).relocate move := by
        intro op
        rw [reduce_relocate]
        rfl
      obtain ⟨token, span⟩ := next
      cases token with
      | openParen | openBracket => rfl
      | minus => exact congrArg some (binary .subtract)
      | operator op word => exact congrArg some (binary op)
      | _ => exact closed

theorem finish_relocate (move : Nat → Nat) (state : ExprState) :
    (state.relocate move).finish.toOption = state.finish.toOption.map (Expr.relocate move) := by
  obtain ⟨phase, frames⟩ := state
  cases phase with
  | after e start =>
      simp only [relocate, ExprPhase.relocate, finish, reduce_relocate]
      generalize reduce 0 frames e = reduced
      obtain ⟨whole, outer⟩ := reduced
      cases outer <;> rfl
  | _ => rfl

theorem readAll_relocate (agrees : FormatAgrees move format other) (stop stop' : Nat)
    (tokens : List Located) (state : ExprState) :
    (readAll other stop' (state.relocate move) (tokens.map (Located.relocate move))).toOption =
      (readAll format stop state tokens).toOption.map (Expr.relocate move) := by
  induction tokens generalizing state with
  | nil =>
      simp only [List.map_nil, readAll]
      rcases outcomes_of_toOption (finish_relocate move state) with
        ⟨e, ended, moved⟩ | ⟨_, _, ended, moved⟩
      · rw [ended, moved]
        rfl
      · rw [ended, moved]
        rfl
  | cons next rest ih =>
      simp only [List.map_cons, readAll]
      rcases outcomes_of_toOption (feed_relocate (agrees.on next) state) with
        ⟨stepped, read, moved⟩ | ⟨_, _, read, moved⟩
      · rw [read, moved]
        cases stepped with
        | more after => exact ih after
        | done e => rfl
      · rw [read, moved]
        rfl

end ExprState

/-- Parses one part of the body of a format string that starts at byte `start`. -/
def readPiece (levels : Nat) (body : List Char) (start : Nat) : RawPiece → Except SyntaxError Piece
  | .text chars => .ok (.text (String.ofList chars))
  | .code place chars =>
      match tokenize (start + place) chars with
      | .error error => .error error
      | .ok tokens =>
          match ExprState.initial.readAll (formatPieces levels) (start + place + Text.byteLength chars)
            tokens with
          | .error error => .error error
          | .ok e => .ok (.code e)
  | .unclosed place => .error ⟨.unclosedBrace, ⟨start + place, start + Text.byteLength body⟩⟩

theorem formatPieces_succ (levels : Nat) (body : List Char) (start : Nat) :
    formatPieces (levels + 1) body start =
      match (splitBody (.text []) 0 body).mapM (readPiece levels body start) with
      | .error error => .error error
      | .ok [] => .ok [.text ""]
      | .ok pieces => .ok pieces := rfl

theorem readPiece_shift {bytes levels : Nat} (body : List Char) (start : Nat)
    (agrees : FormatAgrees (· + bytes) (formatPieces levels) (formatPieces levels))
    (piece : RawPiece) :
    (readPiece levels body (start + bytes) piece).toOption =
      (readPiece levels body start piece).toOption.map (Piece.relocate (· + bytes)) := by
  cases piece with
  | text chars => rfl
  | unclosed place => rfl
  | code place chars =>
      have base : start + bytes + place = start + place + bytes := by omega
      simp only [readPiece, base]
      rcases outcomes_of_toOption (tokenize_shift (start + place) bytes chars) with
        ⟨tokens, read, moved⟩ | ⟨_, _, read, moved⟩
      · rw [read, moved]
        dsimp only
        have whole : (ExprState.initial.readAll (formatPieces levels)
            (start + place + bytes + Text.byteLength chars)
            (tokens.map (Located.relocate (· + bytes)))).toOption =
              (ExprState.initial.readAll (formatPieces levels)
                (start + place + Text.byteLength chars) tokens).toOption.map
                  (Expr.relocate (· + bytes)) :=
          ExprState.readAll_relocate agrees _ _ tokens .initial
        rcases outcomes_of_toOption whole with ⟨e, found, there⟩ | ⟨_, _, found, there⟩
        · rw [found, there]
          rfl
        · rw [found, there]
          rfl
      · rw [read, moved]
        rfl

theorem formatPieces_shift (bytes levels : Nat) :
    FormatAgrees (· + bytes) (formatPieces levels) (formatPieces levels) := by
  induction levels with
  | zero =>
      intro body start
      rfl
  | succ levels ih =>
      intro body start
      have pieces := mapM_toOption (Piece.relocate (· + bytes)) (readPiece_shift body start ih)
        (splitBody (.text []) 0 body)
      rw [formatPieces_succ, formatPieces_succ]
      rcases outcomes_of_toOption pieces with ⟨pieces, read, moved⟩ | ⟨_, _, read, moved⟩
      · rw [read, moved]
        cases pieces <;> rfl
      · rw [read, moved]
        rfl

theorem readFormat_shift (bytes : Nat) : FormatAgrees (· + bytes) readFormat readFormat :=
  fun body => formatPieces_shift bytes body.length body

end LiteratePages.Code
