import LiteratePages.Code.Program
import LiteratePages.Proofs.Code.Completion
import LiteratePages.Proofs.Code.Printing

/-!
How a printed expression is read. The operators that are still open after its last token would all
be closed, in the right order, by an operator around the expression or by the end of it.
-/
namespace LiteratePages.Code

/-- Wherever they stand, `tokens` move a state to one that is `reached`. -/
def Leads {σ : Type} (move : σ → Located → σ → Prop) :
    σ → List Token → (σ → Prop) → Prop
  | state, [], reached => reached state
  | state, token :: rest, reached =>
      ∀ span, ∃ after, move state ⟨token, span⟩ after ∧ Leads move after rest reached

section

variable {σ : Type} {move : σ → Located → σ → Prop} {state : σ} {tokens others : List Token}
  {between reached : σ → Prop}

theorem Leads.append (first : Leads move state tokens between)
    (later : ∀ after, between after → Leads move after others reached) :
    Leads move state (tokens ++ others) reached := by
  induction tokens generalizing state with
  | nil => exact later state first
  | cons token rest ih =>
      intro span
      obtain ⟨after, moved, last⟩ := first span
      exact ⟨after, moved, ih last⟩

theorem Leads.mono (first : Leads move state tokens between)
    (weaker : ∀ after, between after → reached after) : Leads move state tokens reached := by
  rw [← List.append_nil tokens]
  exact first.append weaker

end

def Expr.unplaced (e : Expr) : Expr := e.relocate fun _ => 0

namespace Expr

theorem unplaced_list (items : List Expr) :
    (list items).unplaced = .list (items.map unplaced) := by
  rw [unplaced, relocate, relocateAll_eq_map]
  rfl

theorem unplaced_map (entries : List (Expr × Expr)) :
    (map entries).unplaced =
      .map (entries.map fun entry => (entry.1.unplaced, entry.2.unplaced)) := by
  rw [unplaced, relocate, relocateEntries_eq_map]
  rfl

theorem unplaced_call (callee : Expr) (arguments : List Expr) (span : Span) :
    (call callee arguments span).unplaced =
      .call callee.unplaced (arguments.map unplaced) ⟨0, 0⟩ := by
  rw [unplaced, relocate, relocateAll_eq_map]
  rfl

theorem unplaced_index (target position : Expr) (span : Span) :
    (index target position span).unplaced = .index target.unplaced position.unplaced ⟨0, 0⟩ := rfl

theorem unplaced_binary (op : Binary) (left right : Expr) :
    (binary op left right).unplaced = .binary op left.unplaced right.unplaced := rfl

end Expr

/-- How tightly the outermost operator binds, where an expression has a binary one. -/
def Expr.tightness : Expr → Nat
  | .binary op _ _ => op.level
  | _ => 12

theorem Binary.rank_lt_iff (inner op : Binary) : inner.rank < op.rank ↔ inner.level < op.level := by
  cases inner <;> cases op <;> decide

theorem Binary.level_lt (op : Binary) : op.level < 12 := by cases op <;> decide

theorem Expr.level_le_tightness {op : Binary} {e : Expr} (loose : e.bindsBelow op = false) :
    op.level ≤ e.tightness := by
  cases e with
  | binary inner left right =>
      have order : ¬ inner.rank < op.rank := of_decide_eq_false loose
      rw [Binary.rank_lt_iff] at order
      exact Nat.le_of_not_lt order
  | _ => exact Nat.le_of_lt op.level_lt

theorem Expr.level_lt_tightness {op : Binary} {e : Expr} (loose : e.bindsAtMost op = false) :
    op.level < e.tightness := by
  cases e with
  | binary inner left right =>
      have order : ¬ inner.rank ≤ op.rank := of_decide_eq_false loose
      exact (op.rank_lt_iff inner).mp (Nat.lt_of_not_le order)
  | _ => exact op.level_lt

theorem Expr.notLevel_lt_tightness {e : Expr} (other : e.isConnective = false) :
    notLevel < e.tightness := by
  cases e with
  | binary op left right =>
      cases op with
      | and | or => cases other
      | _ => simp [tightness, Binary.level, notLevel]
  | _ => simp [tightness, notLevel]

def Token.opens : Token → Bool
  | .number _ | .string _ | .boolean _ | .none | .name _ | .openParen | .openBracket | .openBrace
  | .minus | .not _ => true
  | _ => false

/-- The first token may be that of an expression. -/
def Opens (tokens : List Token) : Prop := ∃ first rest, tokens = first :: rest ∧ first.opens = true

theorem opens_cons {first : Token} (rest : List Token) (opens : first.opens = true) :
    Opens (first :: rest) := ⟨first, rest, rfl, opens⟩

theorem Opens.append {tokens : List Token} (opens : Opens tokens) (others : List Token) :
    Opens (tokens ++ others) := by
  obtain ⟨first, rest, rfl, begins⟩ := opens
  exact opens_cons (rest ++ others) begins

theorem Opens.enclose {tokens : List Token} (opens : Opens tokens) (needed : Bool) :
    Opens (enclose needed tokens) := by
  cases needed with
  | false => exact opens
  | true => exact opens_cons _ rfl

theorem Expr.Prints.opens {e : Expr} {tokens : List Token} : e.Prints tokens → Opens tokens
  | .string _ | .number _ | .boolean _ | .none | .variable .. | .list _ | .map _ | .negation _
  | .notSign _ | .notWord _ => opens_cons _ rfl
  | .binary _ before _ => (before.opens.enclose _).append _
  | .call _ before _ | .index _ before _ => ((before.opens.enclose _).append _).append _

namespace ExprState

variable {state : ExprState} {frames : List Frame} {level : Nat} {e : Expr} {tokens : List Token}
  {start : Nat} {span : Span}

abbrev Reads (state : ExprState) (tokens : List Token) (reached : ExprState → Prop) : Prop :=
  Leads (fun state next after => state.feed readFormat next = .ok (.more after)) state tokens
    reached

/-- None of the open operators binds as tightly as `level`. -/
def Settled (level : Nat) : List Frame → Prop
  | .unary _ own :: _ => own ≤ level
  | .binary op _ :: _ => op.level < level
  | _ => True

theorem Settled.mono {tighter : Nat} (settled : Settled level frames) (above : level ≤ tighter) :
    Settled tighter frames := by
  cases frames with
  | nil => trivial
  | cons frame rest =>
      cases frame with
      | unary op own => exact Nat.le_trans settled above
      | binary op left => exact Nat.lt_of_lt_of_le settled above
      | _ => trivial

theorem Settled.reduce_eq (settled : Settled level frames) (e : Expr) :
    reduce level frames e = (e, frames) := by
  cases frames with
  | nil => rfl
  | cons frame rest =>
      cases frame with
      | unary op own => exact if_neg (Nat.not_lt_of_le settled)
      | binary op left => exact if_neg (Nat.not_le_of_lt settled)
      | _ => rfl

/-- For operators up to `level`, the state is as if `e` had just been read inside of `frames`. -/
def Holds (state : ExprState) (level : Nat) (frames : List Frame) (e : Expr) : Prop :=
  ∃ last start, state.phase = .after last start ∧
    ∀ loose ≤ level, reduce loose state.frames last = reduce loose frames e

theorem holds_after (e : Expr) (start level : Nat) (frames : List Frame) :
    Holds ⟨.after e start, frames⟩ level frames e := ⟨e, start, rfl, fun _ _ => rfl⟩

theorem Holds.mono {looser : Nat} (held : state.Holds level frames e) (below : looser ≤ level) :
    state.Holds looser frames e := by
  obtain ⟨last, start, reached, same⟩ := held
  exact ⟨last, start, reached, fun loose within => same loose (Nat.le_trans within below)⟩

/-- An operator inside of `frames` is as good as closed for the operators that close it. -/
theorem Holds.binary {op : Binary} {left right : Expr}
    (held : state.Holds op.level (.binary op left :: frames) right) :
    state.Holds op.level frames (.binary op left right) := by
  obtain ⟨last, start, reached, same⟩ := held
  refine ⟨last, start, reached, fun loose within => ?_⟩
  -- An operator that is no tighter closes this one first, also one of the same level.
  rw [same loose within, reduce, if_pos within]

theorem Holds.unary {op : Unary} {own : Nat} {operand : Expr}
    (held : state.Holds level (.unary op own :: frames) operand) (below : level < own) :
    state.Holds level frames (.unary op operand) := by
  obtain ⟨last, start, reached, same⟩ := held
  refine ⟨last, start, reached, fun loose within => ?_⟩
  rw [same loose within, reduce, if_pos (Nat.lt_of_le_of_lt within below)]

theorem Holds.feed_sign {op : Binary} {sign : Token} (held : state.Holds op.level frames e)
    (settled : Settled op.level frames) (worded : sign.binary? = some op) :
    state.feed readFormat ⟨sign, span⟩ = .ok (.more ⟨.operand, .binary op e :: frames⟩) := by
  obtain ⟨phase, inner⟩ := state
  obtain ⟨last, start, rfl, same⟩ := held
  have closed : reduce op.level inner last = (e, frames) :=
    (same op.level (Nat.le_refl _)).trans (settled.reduce_eq e)
  cases sign with
  | operator _ word =>
      cases worded
      simp only [feed, Token.binary?, closed]
  | minus =>
      cases worded
      simp only [feed, Token.binary?, closed]
  | _ => cases worded

theorem Holds.feed_end (held : state.Holds level frames e) (settled : Settled 0 frames)
    (token : Token) (span : Span) (ends : token.ends = true) :
    state.feed readFormat ⟨token, span⟩ = closeFrame e frames ⟨token, span⟩ := by
  obtain ⟨phase, inner⟩ := state
  obtain ⟨last, start, rfl, same⟩ := held
  have closed : reduce 0 inner last = (e, frames) :=
    (same 0 (Nat.zero_le _)).trans (settled.reduce_eq e)
  cases token with
  | openParen | openBracket | operator | minus => cases ends
  | _ => simp only [feed, Token.binary?, closed]

/-- Parentheses around what they hold are one operand. -/
theorem reads_group (inside : ∀ start, Reads ⟨.operand, .group start :: frames⟩ tokens fun state =>
      ∃ whole, whole.unplaced = e.unplaced ∧ state.Holds 0 (.group start :: frames) whole) :
    Reads ⟨.operand, frames⟩ (enclose true tokens) fun state =>
      ∃ whole start, whole.unplaced = e.unplaced ∧ state = ⟨.after whole start, frames⟩ := by
  intro opening
  refine ⟨_, rfl, (inside opening.start).append ?_⟩
  rintro state ⟨whole, same, held⟩ closing
  refine ⟨⟨.after whole opening.start, frames⟩, ?_, whole, opening.start, same, rfl⟩
  exact held.feed_end trivial .closeParen closing rfl

theorem feed_operand {inner : List Frame} (wanted : state.operandFrames = some inner)
    {first : Token} (opens : first.opens = true) :
    state.feed readFormat ⟨first, span⟩ = feed readFormat ⟨.operand, inner⟩ ⟨first, span⟩ := by
  obtain ⟨phase, frames⟩ := state
  cases phase <;> cases wanted <;> cases first <;> first | rfl | cases opens

theorem Reads.of_operand {inner : List Frame} {reached : ExprState → Prop}
    (read : Reads ⟨.operand, inner⟩ tokens reached) (wanted : state.operandFrames = some inner)
    (opens : Opens tokens) : Reads state tokens reached := by
  obtain ⟨first, rest, rfl, begins⟩ := opens
  intro span
  obtain ⟨after, fed, later⟩ := read span
  exact ⟨after, (feed_operand wanted begins).trans fed, later⟩

/-- The state after the tokens of `e`, up to places. What is no operation leaves nothing open. -/
def IsAfter (frames : List Frame) (e : Expr) (state : ExprState) : Prop :=
  ∃ whole, whole.unplaced = e.unplaced ∧ state.Holds e.tightness frames whole ∧
    (e.isOperation = false → ∃ start, state = ⟨.after whole start, frames⟩)

theorem isAfter_of_eq {whole : Expr} (same : whole.unplaced = e.unplaced) (start : Nat) :
    IsAfter frames e ⟨.after whole start, frames⟩ :=
  ⟨whole, same, holds_after whole start _ frames, fun _ => ⟨start, rfl⟩⟩

/-- The tokens are read as `e` inside of all that its outermost operator does not close. -/
def ReadAs (e : Expr) (tokens : List Token) : Prop :=
  ∀ frames, (e.isBinary = true → Settled e.tightness frames) →
    Reads ⟨.operand, frames⟩ tokens (IsAfter frames e)

theorem ReadAs.inside (read : ReadAs e tokens) (settled : Settled 0 frames) :
    Reads ⟨.operand, frames⟩ tokens fun state =>
      ∃ whole, whole.unplaced = e.unplaced ∧ state.Holds 0 frames whole := by
  refine (read frames fun _ => settled.mono (Nat.zero_le _)).mono ?_
  rintro state ⟨whole, same, held, _⟩
  exact ⟨whole, same, held.mono (Nat.zero_le _)⟩

/-- Reading an operand, in parentheses where an operator around it would break it up. -/
theorem ReadAs.operand {needed : Bool} (read : ReadAs e tokens)
    (settled : needed = false → e.isBinary = true → Settled e.tightness frames)
    (tight : needed = false → level ≤ e.tightness) :
    Reads ⟨.operand, frames⟩ (enclose needed tokens) fun state =>
      ∃ whole, whole.unplaced = e.unplaced ∧ state.Holds level frames whole := by
  cases needed with
  | false =>
      refine (read frames (settled rfl)).mono ?_
      rintro state ⟨whole, same, held, _⟩
      exact ⟨whole, same, held.mono (tight rfl)⟩
  | true =>
      refine (reads_group fun start => read.inside trivial).mono ?_
      rintro state ⟨whole, start, same, rfl⟩
      exact ⟨whole, same, holds_after whole start level frames⟩

theorem ReadAs.target (read : ReadAs e tokens) :
    Reads ⟨.operand, frames⟩ (enclose e.isOperation tokens) fun state =>
      ∃ whole start, whole.unplaced = e.unplaced ∧ state = ⟨.after whole start, frames⟩ := by
  cases operation : e.isOperation with
  | false =>
      have unary : e.isBinary = true → Settled e.tightness frames := by
        intro binary
        cases e with
        | binary => cases operation
        | _ => cases binary
      refine (read frames unary).mono ?_
      rintro state ⟨whole, same, _, exact⟩
      obtain ⟨start, rfl⟩ := exact operation
      exact ⟨whole, start, same, rfl⟩
  | true => exact reads_group fun start => read.inside trivial

theorem ReadAs.signed {op : Unary} (read : ReadAs e tokens) :
    Reads ⟨.operand, .unary op signLevel :: frames⟩ (enclose e.isBinary tokens)
      (IsAfter frames (.unary op e)) := by
  -- A sign binds more tightly than all binary operators, so that one after it is in parentheses.
  have tight : e.isBinary = false → 12 ≤ e.tightness := by
    intro other
    cases e with
    | binary => cases other
    | _ => exact Nat.le_refl 12
  refine (read.operand ?_ tight).mono ?_
  · intro other binary
    rw [other] at binary
    cases binary
  · rintro state ⟨whole, same, held⟩
    exact ⟨.unary op whole, congrArg (Expr.unary op) same, held.unary (by decide), nofun⟩

theorem ReadAs.negated (read : ReadAs e tokens) :
    Reads ⟨.operand, frames⟩ (enclose true (.not true :: enclose e.isConnective tokens))
      (IsAfter frames (.unary .logicalNot e)) := by
  have inside : ∀ start, Reads ⟨.operand, .group start :: frames⟩
      (.not true :: enclose e.isConnective tokens) fun state =>
        ∃ whole, whole.unplaced = (Expr.unary .logicalNot e).unplaced ∧
          state.Holds 0 (.group start :: frames) whole := by
    intro start span
    refine ⟨⟨.operand, .unary .logicalNot notLevel :: .group start :: frames⟩, rfl, ?_⟩
    -- The word `not` binds more loosely than all binary operators but `and` and `or`.
    have settled : e.isConnective = false → e.isBinary = true →
        Settled e.tightness (.unary .logicalNot notLevel :: .group start :: frames) :=
      fun other _ => Nat.le_of_lt (Expr.notLevel_lt_tightness other)
    refine (read.operand settled fun _ => Nat.zero_le e.tightness).mono ?_
    rintro state ⟨whole, same, held⟩
    exact ⟨.unary .logicalNot whole, congrArg (Expr.unary .logicalNot) same, held.unary (by decide)⟩
  refine (reads_group inside).mono ?_
  rintro _ ⟨whole, start, same, rfl⟩
  exact isAfter_of_eq same start

theorem ReadAs.between {op : Binary} {sign : Token} {left right : Expr}
    {first second : List Token} (worded : sign.binary? = some op) (before : ReadAs left first)
    (after : ReadAs right second) (settled : Settled op.level frames) :
    Reads ⟨.operand, frames⟩
      (enclose (left.bindsBelow op) first ++ sign :: enclose (right.bindsAtMost op) second)
      (IsAfter frames (.binary op left right)) := by
  have leftSettled : left.bindsBelow op = false → left.isBinary = true →
      Settled left.tightness frames :=
    fun loose _ => settled.mono (Expr.level_le_tightness loose)
  -- What closes the left operand is the sign; what closes the right one also closes the whole.
  refine (before.operand leftSettled Expr.level_le_tightness).append ?_
  rintro state ⟨l, sameLeft, held⟩ span
  refine ⟨⟨.operand, .binary op l :: frames⟩, held.feed_sign settled worded, ?_⟩
  have rightSettled : right.bindsAtMost op = false → right.isBinary = true →
      Settled right.tightness (.binary op l :: frames) :=
    fun tight _ => Expr.level_lt_tightness tight
  have rightTight : right.bindsAtMost op = false → op.level ≤ right.tightness :=
    fun tight => Nat.le_of_lt (Expr.level_lt_tightness tight)
  refine (after.operand rightSettled rightTight).mono ?_
  rintro reached ⟨r, sameRight, heldRight⟩
  refine ⟨.binary op l r, ?_, heldRight.binary, nofun⟩
  rw [Expr.unplaced_binary, Expr.unplaced_binary, sameLeft, sameRight]

/-- Expressions with commas between them, up to the bracket that makes them the `whole`. -/
structure Bracketed (phase : List Expr → ExprPhase) (frame : List Expr → Frame) (close : Token)
    (start : Nat) (whole : Span → List Expr → Expr) : Prop where
  wanted : ∀ items frames, operandFrames ⟨phase items, frames⟩ = some (frame items :: frames)
  settled : ∀ items frames, Settled 0 (frame items :: frames)
  comma : ∀ e items frames span, closeFrame e (frame items :: frames) ⟨.comma, span⟩ =
    .ok (.more ⟨phase (items ++ [e]), frames⟩)
  last : ∀ e items frames span, closeFrame e (frame items :: frames) ⟨close, span⟩ =
    .ok (.more ⟨.after (whole span (items ++ [e])) start, frames⟩)
  empty : ∀ items frames span, feed readFormat ⟨phase items, frames⟩ ⟨close, span⟩ =
    .ok (.more ⟨.after (whole span items) start, frames⟩)
  ends : close.ends = true

theorem bracketed_list (start : Nat) :
    Bracketed (.item start) (.list start) .closeBracket start fun _ => .list where
  wanted _ _ := rfl
  settled _ _ := trivial
  comma _ _ _ _ := rfl
  last _ _ _ _ := rfl
  empty _ _ _ := rfl
  ends := rfl

theorem bracketed_call (start : Nat) (callee : Expr) :
    Bracketed (.argument start callee) (.call start callee) .closeParen start
      fun span arguments => .call callee arguments ⟨start, span.stop⟩ where
  wanted _ _ := rfl
  settled _ _ := trivial
  comma _ _ _ _ := rfl
  last _ _ _ _ := rfl
  empty _ _ _ := rfl
  ends := rfl

theorem ReadAs.entry {label value : Expr} {first second : List Token} (before : ReadAs label first)
    (opensLabel : Opens first) (after : ReadAs value second) (opensValue : Opens second)
    (start : Nat) (entries : List (Expr × Expr)) (frames : List Frame) :
    Reads ⟨.key start entries, frames⟩ (first ++ .colon :: second) fun state =>
      ∃ key whole, (key.unplaced, whole.unplaced) = (label.unplaced, value.unplaced) ∧
        state.Holds 0 (.entry start entries key :: frames) whole := by
  have aroundLabel : Settled 0 (.key start entries :: frames) := trivial
  refine ((before.inside aroundLabel).of_operand rfl opensLabel).append ?_
  rintro state ⟨key, sameKey, held⟩ span
  refine ⟨⟨.entry start entries key, frames⟩, held.feed_end trivial .colon span rfl, ?_⟩
  have aroundValue : Settled 0 (.entry start entries key :: frames) := trivial
  refine ((after.inside aroundValue).of_operand rfl opensValue).mono ?_
  rintro reached ⟨whole, sameValue, heldValue⟩
  exact ⟨key, whole, Prod.ext sameKey sameValue, heldValue⟩

mutual

theorem readAs_prints {e : Expr} {tokens : List Token} : e.Prints tokens → ReadAs e tokens
  | .string _ | .number _ | .boolean _ | .none =>
      fun _ _ span => ⟨_, rfl, isAfter_of_eq rfl span.start⟩
  | .variable name place => by
      intro frames _ span
      have same : (Expr.variable name span).unplaced = (Expr.variable name place).unplaced := rfl
      exact ⟨_, rfl, isAfter_of_eq same span.start⟩
  | .list inside => by
      intro frames _ span
      refine ⟨⟨.item span.start [], frames⟩, rfl, ?_⟩
      refine (reads_printsItems inside (bracketed_list span.start) [] frames).mono ?_
      rintro state ⟨read, place, same, rfl⟩
      refine isAfter_of_eq ?_ span.start
      rw [Expr.unplaced_list, Expr.unplaced_list, List.nil_append, same]
  | .map inside => by
      intro frames _ span
      refine ⟨⟨.key span.start [], frames⟩, rfl, ?_⟩
      refine (reads_printsEntries inside span.start [] frames).mono ?_
      rintro state ⟨read, same, rfl⟩
      refine isAfter_of_eq ?_ span.start
      rw [Expr.unplaced_map, Expr.unplaced_map, List.nil_append, same]
  | .call place before inside => by
      intro frames _
      rw [List.append_assoc]
      refine (readAs_prints before).target.append ?_
      rintro _ ⟨callee, start, same, rfl⟩ opening
      refine ⟨⟨.argument start callee [], frames⟩, rfl, ?_⟩
      refine (reads_printsItems inside (bracketed_call start callee) [] frames).mono ?_
      rintro state ⟨read, span, sameArguments, rfl⟩
      refine isAfter_of_eq ?_ start
      rw [Expr.unplaced_call, Expr.unplaced_call, List.nil_append, same, sameArguments]
  | .index place before inside => by
      intro frames _
      rw [List.append_assoc]
      refine (readAs_prints before).target.append ?_
      rintro _ ⟨target, start, same, rfl⟩ opening
      have settled : Settled 0 (.index start target :: frames) := trivial
      refine ⟨⟨.operand, .index start target :: frames⟩, rfl, ?_⟩
      refine ((readAs_prints inside).inside settled).append ?_
      rintro state ⟨position, samePosition, held⟩ closing
      refine ⟨_, held.feed_end trivial .closeBracket closing rfl, isAfter_of_eq ?_ start⟩
      rw [Expr.unplaced_index, Expr.unplaced_index, same, samePosition]
  | .negation after => by
      intro frames _ span
      exact ⟨⟨.operand, .unary .negation signLevel :: frames⟩, rfl, (readAs_prints after).signed⟩
  | .notSign after => by
      intro frames _ span
      exact ⟨⟨.operand, .unary .logicalNot signLevel :: frames⟩, rfl, (readAs_prints after).signed⟩
  | .notWord after => fun _ _ => (readAs_prints after).negated
  | .binary worded before after => fun _ settled =>
      (readAs_prints before).between worded (readAs_prints after) (settled rfl)

theorem reads_printsItems {items : List Expr} {tokens : List Token} {close : Token} {start : Nat}
    {phase : List Expr → ExprPhase} {frame : List Expr → Frame} {whole : Span → List Expr → Expr} :
    PrintsItems items tokens → Bracketed phase frame close start whole →
    (before : List Expr) → (frames : List Frame) →
    Reads ⟨phase before, frames⟩ (tokens ++ [close]) fun state =>
      ∃ read span, read.map Expr.unplaced = items.map Expr.unplaced ∧
        state = ⟨.after (whole span (before ++ read)) start, frames⟩
  | .none, bracketed, before, frames => by
      intro span
      refine ⟨_, bracketed.empty before frames span, [], span, rfl, ?_⟩
      rw [List.append_nil]
  | .one last, bracketed, before, frames => by
      have settled := bracketed.settled before frames
      have inside := (readAs_prints last).inside settled
      refine (inside.of_operand (bracketed.wanted before frames) last.opens).append ?_
      rintro state ⟨read, same, held⟩ span
      have fed := held.feed_end settled close span bracketed.ends
      refine ⟨_, fed.trans (bracketed.last read before frames span), ?_⟩
      exact ⟨[read], span, congrArg (· :: []) same, rfl⟩
  | .more first later, bracketed, before, frames => by
      have settled := bracketed.settled before frames
      have inside := (readAs_prints first).inside settled
      rw [List.append_assoc]
      refine (inside.of_operand (bracketed.wanted before frames) first.opens).append ?_
      rintro state ⟨read, same, held⟩ span
      have fed := held.feed_end settled .comma span rfl
      refine ⟨_, fed.trans (bracketed.comma read before frames span), ?_⟩
      refine (reads_printsItems later bracketed (before ++ [read]) frames).mono ?_
      rintro _ ⟨others, place, sameOthers, rfl⟩
      refine ⟨read :: others, place, ?_, ?_⟩
      · rw [List.map_cons, List.map_cons, same, sameOthers]
      · rw [List.append_assoc]
        rfl

theorem reads_printsEntries {entries : List (Expr × Expr)} {tokens : List Token} :
    PrintsEntries entries tokens → (start : Nat) → (before : List (Expr × Expr)) →
    (frames : List Frame) →
    Reads ⟨.key start before, frames⟩ (tokens ++ [.closeBrace]) fun state =>
      ∃ read, (read.map fun entry => (entry.1.unplaced, entry.2.unplaced)) =
          (entries.map fun entry => (entry.1.unplaced, entry.2.unplaced)) ∧
        state = ⟨.after (.map (before ++ read)) start, frames⟩
  | .none, start, before, frames => by
      intro span
      refine ⟨_, rfl, [], rfl, ?_⟩
      rw [List.append_nil]
  | .one label last, start, before, frames => by
      refine ((readAs_prints label).entry label.opens (readAs_prints last) last.opens start before
        frames).append ?_
      rintro state ⟨key, value, same, held⟩ span
      refine ⟨_, held.feed_end trivial .closeBrace span rfl, [(key, value)], ?_, rfl⟩
      rw [List.map_cons, List.map_cons, same]
  | .more label item later, start, before, frames => by
      rw [List.append_assoc]
      refine ((readAs_prints label).entry label.opens (readAs_prints item) item.opens start before
        frames).append ?_
      rintro state ⟨key, value, same, held⟩ span
      refine ⟨_, held.feed_end trivial .comma span rfl, ?_⟩
      refine (reads_printsEntries later start (before ++ [(key, value)]) frames).mono ?_
      rintro _ ⟨others, sameOthers, rfl⟩
      refine ⟨(key, value) :: others, ?_, ?_⟩
      · rw [List.map_cons, List.map_cons, same, sameOthers]
      · rw [List.append_assoc]
        rfl

end

end ExprState
end LiteratePages.Code
