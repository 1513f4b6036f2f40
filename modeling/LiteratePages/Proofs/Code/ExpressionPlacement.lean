import LiteratePages.Proofs.Code.Completion
import LiteratePages.Proofs.Code.ExpressionRelocation
import LiteratePages.Proofs.Code.LexerPlaces
import LiteratePages.Proofs.Code.Placement

/-!
Where expressions stand. All that is open around the place that has been reached started before it,
and what has been read inside of it lies between its start and that place.
-/
namespace LiteratePages.Code

/-- What starts at byte `start` has been read up to byte `stop`, and `parts` lie in between. -/
structure Extent (text : String) (floor start stop : Nat) (parts : List Expr) : Prop where
  above : floor ≤ start
  forward : start < stop
  valid : String.Pos.Raw.IsValid text ⟨start⟩
  parts : ∀ e ∈ parts, e.Placed text [⟨start, stop⟩]

def Frame.start? : Frame → Option Nat
  | .unary .. | .binary .. => none
  | .group start | .list start _ | .call start _ _ | .index start _ | .key start _
  | .entry start _ _ => some start

def Frame.parts : Frame → List Expr
  | .unary .. | .group _ => []
  | .binary _ left => [left]
  | .list _ items => items
  | .call _ callee arguments => callee :: arguments
  | .index _ target => [target]
  | .key _ entries => entryParts entries
  | .entry _ entries label => label :: entryParts entries

/-- Where the innermost open bracket starts, or where the whole does if there is none. -/
def framesStart (floor : Nat) : List Frame → Nat
  | [] => floor
  | frame :: rest => frame.start?.getD (framesStart floor rest)

def PlacedFrames (text : String) (floor stop : Nat) : List Frame → Prop
  | [] => floor ≤ stop ∧ String.Pos.Raw.IsValid text ⟨floor⟩
  | frame :: rest =>
      Extent text (framesStart floor rest) (framesStart floor (frame :: rest)) stop frame.parts ∧
        PlacedFrames text floor stop rest

def ExprPhase.start? : ExprPhase → Option Nat
  | .operand => none
  | .item start _ | .argument start _ _ | .key start _ | .colon start _ _ | .entry start _ _
  | .entryEnd start _ | .after _ start => some start

def ExprPhase.parts : ExprPhase → List Expr
  | .operand => []
  | .item _ items => items
  | .argument _ callee arguments => callee :: arguments
  | .key _ entries | .entryEnd _ entries => entryParts entries
  | .colon _ entries label | .entry _ entries label => label :: entryParts entries
  | .after e _ => [e]

/-- What is known of an expression that starts at byte `floor` and has been read up to byte
`stop`. -/
structure ExprState.Placed (text : String) (floor stop : Nat) (state : ExprState) : Prop where
  frames : PlacedFrames text floor stop state.frames
  phase : ∀ start, state.phase.start? = some start →
    Extent text (framesStart floor state.frames) start stop state.phase.parts

/-- Bodies of format strings are read at the places where they stand. -/
def FormatPlaced (text : String)
    (format : List Char → Nat → Except SyntaxError (List Piece)) : Prop :=
  ∀ body start, Folded false body →
    Span.Cuts text.toList ⟨start, start + Text.byteLength body⟩ body →
    Meets (PlacedPieces text [⟨start, start + Text.byteLength body⟩])
      (SyntaxError.PointsInto text.toList) (format body start)

variable {text : String} {floor start stop last : Nat} {parts : List Expr}

theorem wider_of_inside {inner outer : Span} (inside : inner.Inside outer) :
    Wider [inner] [outer] := by
  intro other member
  rw [List.mem_singleton.mp member]
  exact ⟨inner, List.mem_singleton.mpr rfl, inside⟩

theorem Expr.Placed.inside {inner outer : Span} {e : Expr} (placed : e.Placed text [inner])
    (inside : inner.Inside outer) : e.Placed text [outer] :=
  e.placed_mono (wider_of_inside inside) placed

/-- What lies inside a span also does so with the same span around it once more. -/
theorem Expr.Placed.doubled {span : Span} {e : Expr} (placed : e.Placed text [span]) :
    e.Placed text [span, span] := by
  refine e.placed_mono ?_ placed
  intro other member
  refine ⟨span, List.mem_singleton.mpr rfl, ?_⟩
  have same : other = span := by simpa using member
  rw [same]
  exact .refl span

theorem sliceable_of_valid (ordered : start ≤ stop)
    (opens : String.Pos.Raw.IsValid text ⟨start⟩) (closes : String.Pos.Raw.IsValid text ⟨stop⟩) :
    Span.Sliceable text ⟨start, stop⟩ :=
  ⟨ordered, closes.le_rawEndPos, opens, closes⟩

theorem Located.Stands.forward {source : List Char} {next : Located} (stands : next.Stands source) :
    next.span.start < next.span.stop := by
  obtain ⟨piece, some, cuts, _⟩ := stands
  exact cuts.lt some

theorem Located.Stands.sliceable {next : Located} (stands : next.Stands text.toList) :
    next.span.Sliceable text := by
  obtain ⟨piece, _, cuts, _⟩ := stands
  exact cuts.sliceable

/-- The text has the name of a variable where the variable is mentioned. -/
theorem Located.Stands.variable {word : String} {span : Span}
    (stands : Located.Stands text.toList ⟨.name word, span⟩) :
    (Expr.variable word span).Placed text [span] := by
  have nested : span.Nested text [span] :=
    ⟨stands.forward, stands.sliceable, fun _ member => List.mem_singleton.mp member ▸ .refl _⟩
  obtain ⟨piece, _, cuts, spells⟩ := stands
  refine ⟨nested, ?_⟩
  rw [cuts.bytesBetween_eq, spells, String.ofList_toList]

theorem Located.Stands.points {source : List Char} {next : Located} {error : SyntaxError}
    (stands : next.Stands source) (same : error.span = next.span) : error.PointsInto source := by
  obtain ⟨piece, _, cuts, _⟩ := stands
  exact .inl ⟨piece, same ▸ cuts⟩

/-- The body of a format string stands inside its token. -/
theorem Located.Stands.format {source : List Char} {body : List Char} {place : Nat} {span : Span}
    (stands : Located.Stands source ⟨.format body place, span⟩) :
    Folded false body ∧ Span.Cuts source ⟨place, place + Text.byteLength body⟩ body ∧
      Span.Inside ⟨place, place + Text.byteLength body⟩ span := by
  obtain ⟨piece, _, cuts, opening, closing, rfl, reached, folded⟩ := stands
  replace reached : place = span.start + Text.byteLength opening := reached
  subst reached
  have within : Span.Cuts (opening ++ body ++ closing)
      ⟨Text.byteLength opening, Text.byteLength opening + Text.byteLength body⟩ body :=
    ⟨opening, closing, rfl, rfl, rfl⟩
  have inner := cuts.inner within
  obtain ⟨_, _, _, start, stop⟩ := cuts
  dsimp only at inner start stop ⊢
  refine ⟨folded, by rwa [Nat.add_assoc], Nat.le_add_right .., ?_⟩
  rw [stop, start]
  simp only [Text.byteLength_append]
  omega

theorem FormatPlaced.points {format : List Char → Nat → Except SyntaxError (List Piece)}
    {next : Located} {error : SyntaxError} (reads : FormatPlaced text format)
    (stands : next.Stands text.toList) (raised : error.RaisedAt format next) :
    error.PointsInto text.toList := by
  obtain ⟨token, span⟩ := next
  rcases raised with same | ⟨body, place, rfl, failed⟩
  · exact stands.points same
  · obtain ⟨folded, cuts, _⟩ := stands.format
    have read := reads body place folded cuts
    rwa [failed] at read

namespace Extent

theorem mono (extent : Extent text floor start last parts) (longer : last ≤ stop) :
    Extent text floor start stop parts :=
  ⟨extent.above, Nat.lt_of_lt_of_le extent.forward longer, extent.valid, fun e member =>
    (extent.parts e member).inside ⟨Nat.le_refl _, longer⟩⟩

theorem put {others : List Expr} (extent : Extent text floor start stop parts)
    (placed : ∀ e ∈ others, e.Placed text [⟨start, stop⟩]) :
    Extent text floor start stop others :=
  ⟨extent.above, extent.forward, extent.valid, placed⟩

theorem concat {e : Expr} (extent : Extent text floor start stop parts)
    (placed : e.Placed text [⟨start, stop⟩]) : Extent text floor start stop (parts ++ [e]) := by
  refine extent.put fun other member => ?_
  rcases List.mem_append.mp member with earlier | last
  · exact extent.parts other earlier
  · rwa [List.mem_singleton.mp last]

theorem entry {entries : List (Expr × Expr)} {label e : Expr}
    (extent : Extent text floor start stop (label :: entryParts entries))
    (placed : e.Placed text [⟨start, stop⟩]) :
    Extent text floor start stop (entryParts (entries ++ [(label, e)])) := by
  refine extent.put fun other member => ?_
  have parts : other = e ∨ other ∈ label :: entryParts entries := by
    simp only [entryParts, List.flatMap_append, List.flatMap_cons, List.flatMap_nil,
      List.mem_append, List.mem_cons, List.not_mem_nil, or_false] at member ⊢
    tauto
  rcases parts with rfl | earlier
  · exact placed
  · exact extent.parts other earlier

theorem label {e : Expr} (extent : Extent text floor start stop parts)
    (placed : e.Placed text [⟨start, stop⟩]) : Extent text floor start stop (e :: parts) := by
  refine extent.put fun other member => ?_
  rcases List.mem_cons.mp member with rfl | earlier
  · exact placed
  · exact extent.parts other earlier

theorem list (extent : Extent text floor start stop parts) :
    Extent text floor start stop [.list parts] := by
  refine extent.put fun e member => ?_
  rw [List.mem_singleton.mp member]
  exact placedAll_iff.mpr extent.parts

theorem map {entries : List (Expr × Expr)}
    (extent : Extent text floor start stop (entryParts entries)) :
    Extent text floor start stop [.map entries] := by
  refine extent.put fun e member => ?_
  rw [List.mem_singleton.mp member]
  exact placedEntries_iff.mpr extent.parts

theorem nested (extent : Extent text floor start stop parts)
    (closes : String.Pos.Raw.IsValid text ⟨stop⟩) :
    Span.Nested text [⟨start, stop⟩] ⟨start, stop⟩ := by
  refine ⟨extent.forward, sliceable_of_valid (Nat.le_of_lt extent.forward) extent.valid closes, ?_⟩
  intro outer member
  rw [List.mem_singleton.mp member]
  exact .refl _

theorem call {callee : Expr} (extent : Extent text floor start stop (callee :: parts))
    (closes : String.Pos.Raw.IsValid text ⟨stop⟩) :
    Extent text floor start stop [.call callee parts ⟨start, stop⟩] := by
  refine extent.put fun e member => ?_
  rw [List.mem_singleton.mp member]
  refine ⟨extent.nested closes, (extent.parts callee List.mem_cons_self).doubled, ?_⟩
  exact placedAll_iff.mpr fun e member => (extent.parts e (List.mem_cons_of_mem _ member)).doubled

theorem index {target position : Expr} (extent : Extent text floor start stop [target, position])
    (closes : String.Pos.Raw.IsValid text ⟨stop⟩) :
    Extent text floor start stop [.index target position ⟨start, stop⟩] := by
  refine extent.put fun e member => ?_
  rw [List.mem_singleton.mp member]
  exact ⟨extent.nested closes, (extent.parts target (by simp)).doubled,
    (extent.parts position (by simp)).doubled⟩

end Extent

namespace PlacedFrames

variable {frames : List Frame}

theorem mono (placed : PlacedFrames text floor last frames) (longer : last ≤ stop) :
    PlacedFrames text floor stop frames := by
  induction frames with
  | nil => exact ⟨Nat.le_trans placed.1 longer, placed.2⟩
  | cons frame rest ih => exact ⟨placed.1.mono longer, ih placed.2⟩

theorem start_le (placed : PlacedFrames text floor stop frames) :
    framesStart floor frames ≤ stop := by
  cases frames with
  | nil => exact placed.1
  | cons frame rest => exact Nat.le_of_lt placed.1.forward

theorem valid (placed : PlacedFrames text floor stop frames) :
    String.Pos.Raw.IsValid text ⟨framesStart floor frames⟩ := by
  cases frames with
  | nil => exact placed.2
  | cons frame rest => exact placed.1.valid

end PlacedFrames

/-- Closing operators leaves what is open and the expression in their places. -/
theorem reduce_placed {level : Nat} {frames : List Frame} {e : Expr}
    (placed : PlacedFrames text floor stop frames)
    (inner : e.Placed text [⟨framesStart floor frames, stop⟩]) :
    PlacedFrames text floor stop (reduce level frames e).2 ∧
      (reduce level frames e).1.Placed text
        [⟨framesStart floor (reduce level frames e).2, stop⟩] := by
  induction frames generalizing e with
  | nil => exact ⟨placed, inner⟩
  | cons frame rest ih =>
      cases frame with
      | unary op own =>
          unfold reduce
          split
          · exact ih placed.2 inner
          · exact ⟨placed, inner⟩
      | binary op left =>
          unfold reduce
          split
          · exact ih placed.2 ⟨placed.1.parts left (List.mem_singleton.mpr rfl), inner⟩
          · exact ⟨placed, inner⟩
      | _ => exact ⟨placed, inner⟩

namespace ExprState

variable {format : List Char → Nat → Except SyntaxError (List Piece)} {frames : List Frame}
  {state after : ExprState} {next : Located} {e : Expr}

/-- A phase with a place of its own, inside of `frames`. -/
theorem placed_of_extent {phase : ExprPhase} (outer : PlacedFrames text floor stop frames)
    (begun : phase.start? = some start)
    (extent : Extent text (framesStart floor frames) start stop phase.parts) :
    Placed text floor stop ⟨phase, frames⟩ := by
  refine ⟨outer, fun other same => ?_⟩
  cases begun.symm.trans same
  exact extent

theorem startOperand_placed (reads : FormatPlaced text format)
    (placed : PlacedFrames text floor last frames) (stands : next.Stands text.toList)
    (above : last ≤ next.span.start) :
    Meets (Placed text floor next.span.stop) (SyntaxError.PointsInto text.toList)
      (startOperand format frames next) := by
  have forward := stands.forward
  have opens := stands.sliceable.start
  have frames' : PlacedFrames text floor next.span.stop frames := placed.mono (by omega)
  have first : framesStart floor frames ≤ next.span.start := Nat.le_trans placed.start_le above
  have extent : Extent text (framesStart floor frames) next.span.start next.span.stop [] :=
    ⟨first, forward, opens, nofun⟩
  have sign : ∀ op level,
      Placed text floor next.span.stop ⟨.operand, .unary op level :: frames⟩ := by
    intro op level
    have opened : Extent text (framesStart floor frames) (framesStart floor frames)
        next.span.stop [] :=
      ⟨Nat.le_refl _, Nat.lt_of_le_of_lt first forward, placed.valid, nofun⟩
    exact ⟨⟨opened, frames'⟩, nofun⟩
  have operand : ∀ e : Expr, e.Placed text [next.span] →
      Placed text floor next.span.stop ⟨.after e next.span.start, frames⟩ := by
    intro e inside
    exact placed_of_extent frames' rfl (extent.concat inside)
  obtain ⟨token, span⟩ := next
  cases token with
  | minus | not => exact sign ..
  | number | string | boolean | none => exact operand _ trivial
  | name => exact operand _ stands.variable
  | format body place =>
      obtain ⟨folded, cuts, inside⟩ := stands.format
      have read := reads body place folded cuts
      unfold startOperand
      dsimp only
      cases result : format body place with
      | ok pieces =>
          rw [result] at read
          exact operand _ (placedPieces_mono (wider_of_inside inside) pieces read)
      | error error =>
          rw [result] at read
          exact read
  | openParen => exact ⟨⟨extent, frames'⟩, nofun⟩
  | openBracket | openBrace => exact placed_of_extent frames' rfl extent
  | _ => exact stands.points rfl

theorem operandFrames_placed (placed : state.Placed text floor last)
    (wanted : state.operandFrames = some frames) : PlacedFrames text floor last frames := by
  obtain ⟨phase, outer⟩ := state
  cases phase with
  | operand =>
      cases wanted
      exact placed.frames
  | colon | entryEnd | after => cases wanted
  | _ =>
      cases wanted
      exact ⟨placed.phase _ rfl, placed.frames⟩

/-- After an operand, closing the open operators leaves what is open and the whole in place. -/
theorem Placed.reduce (placed : Placed text floor last ⟨.after e start, frames⟩) (level : Nat) :
    PlacedFrames text floor last (Code.reduce level frames e).2 ∧
      (Code.reduce level frames e).1.Placed text
        [⟨framesStart floor (Code.reduce level frames e).2, last⟩] := by
  have extent := placed.phase start rfl
  have inner : e.Placed text [⟨start, last⟩] := extent.parts e (List.mem_singleton.mpr rfl)
  exact reduce_placed placed.frames (inner.inside ⟨extent.above, Nat.le_refl _⟩)

theorem Complete.placed {whole : Expr} (complete : state.Complete whole)
    (placed : state.Placed text floor last) : whole.Placed text [⟨floor, last⟩] := by
  obtain ⟨phase, frames⟩ := state
  obtain ⟨e, start, rfl, closed⟩ := complete
  have reduced := (placed.reduce 0).2
  rwa [closed] at reduced

theorem closeFrame_placed (placed : PlacedFrames text floor last frames)
    (inner : e.Placed text [⟨framesStart floor frames, last⟩]) (stands : next.Stands text.toList)
    (above : last ≤ next.span.start) (read : closeFrame e frames next = .ok (.more after)) :
    after.Placed text floor next.span.stop := by
  have forward := stands.forward
  have closes := stands.sliceable.stop
  have later : last ≤ next.span.stop := by omega
  obtain ⟨token, span⟩ := next
  cases frames with
  | nil => cases read
  | cons frame rest =>
      have extent := placed.1.mono later
      have outer := placed.2.mono later
      have inner' : e.Placed text [⟨framesStart floor (frame :: rest), span.stop⟩] :=
        inner.inside ⟨Nat.le_refl _, later⟩
      cases frame with
      | unary | binary => cases read
      | group start =>
          cases token with
          | closeParen =>
              cases read
              exact placed_of_extent outer rfl (extent.concat inner')
          | _ => cases read
      | list start items =>
          cases token with
          | comma =>
              cases read
              exact placed_of_extent outer rfl (extent.concat inner')
          | closeBracket =>
              cases read
              exact placed_of_extent outer rfl (extent.concat inner').list
          | _ => cases read
      | call start callee arguments =>
          cases token with
          | comma =>
              cases read
              exact placed_of_extent outer rfl (extent.concat inner')
          | closeParen =>
              cases read
              exact placed_of_extent outer rfl ((extent.concat inner').call closes)
          | _ => cases read
      | index start target =>
          cases token with
          | closeBracket =>
              cases read
              exact placed_of_extent outer rfl ((extent.concat inner').index closes)
          | _ => cases read
      | key start entries =>
          have labelled := extent.label inner'
          cases token with
          | newline | colon =>
              cases read
              exact placed_of_extent outer rfl labelled
          | _ => cases read
      | entry start entries label =>
          have paired := extent.entry inner'
          cases token with
          | newline | comma =>
              cases read
              exact placed_of_extent outer rfl paired
          | closeBrace =>
              cases read
              exact placed_of_extent outer rfl paired.map
          | _ => cases read

theorem feed_placed (reads : FormatPlaced text format) (placed : state.Placed text floor last)
    (stands : next.Stands text.toList) (above : last ≤ next.span.start)
    (read : state.feed format next = .ok (.more after)) :
    after.Placed text floor next.span.stop := by
  have forward := stands.forward
  have closes := stands.sliceable.stop
  have later : last ≤ next.span.stop := by omega
  have frames' := placed.frames.mono later
  have extent : ∀ start, state.phase.start? = some start →
      Extent text (framesStart floor state.frames) start next.span.stop state.phase.parts :=
    fun start begun => (placed.phase start begun).mono later
  cases step_of_feed read with
  | operand wanted started =>
      have placed := startOperand_placed reads (operandFrames_placed placed wanted) stands above
      rwa [started] at placed
  | listEnd start => exact placed_of_extent frames' rfl (extent start rfl).list
  | callEnd start => exact placed_of_extent frames' rfl ((extent start rfl).call closes)
  | mapEnd start | entriesEnd start => exact placed_of_extent frames' rfl (extent start rfl).map
  | keyLine start | colonLine start | colon start | entryLine start | entryEndLine start
  | entryComma start => exact placed_of_extent frames' rfl (extent start rfl)
  | call e start => exact placed_of_extent frames' rfl (extent start rfl)
  | index e start => exact ⟨⟨extent start rfl, frames'⟩, nofun⟩
  | @sign _ op worded e start frames span =>
      obtain ⟨outer, left⟩ := placed.reduce op.level
      have first := Nat.le_trans outer.start_le above
      have operands : ∀ other ∈ [(Code.reduce op.level frames e).1], other.Placed text
          [⟨framesStart floor (Code.reduce op.level frames e).2, span.stop⟩] := by
        intro other member
        rw [List.mem_singleton.mp member]
        exact left.inside ⟨Nat.le_refl _, later⟩
      exact ⟨⟨⟨Nat.le_refl _, Nat.lt_of_le_of_lt first forward, outer.valid, operands⟩,
        outer.mono later⟩, nofun⟩
  | close start closed =>
      obtain ⟨outer, whole⟩ := placed.reduce 0
      exact closeFrame_placed outer whole stands above closed

/-- What fails fails at its token or inside the format string that it is. -/
theorem feed_meets (reads : FormatPlaced text format) (placed : state.Placed text floor last)
    (stands : next.Stands text.toList) (above : last ≤ next.span.start) :
    Meets
      (fun
        | .more after => after.Placed text floor next.span.stop
        | .done whole => whole.Placed text [⟨floor, last⟩])
      (SyntaxError.PointsInto text.toList) (state.feed format next) := by
  cases read : state.feed format next with
  | ok move =>
      cases move with
      | more after => exact feed_placed reads placed stands above read
      | done whole => exact (complete_of_feed_done read).placed placed
  | error error => exact reads.points stands (feed_eq_error read)

theorem readAll_meets {tokens : List Located} {ends : Nat} (reads : FormatPlaced text format)
    (placed : state.Placed text floor last) (stand : Tokens text.toList last ends tokens)
    (reached : last ≤ ends) (nothing : Span.Cuts text.toList ⟨ends, ends⟩ []) :
    Meets (Expr.Placed text [⟨floor, ends⟩]) (SyntaxError.PointsInto text.toList)
      (state.readAll format ends tokens) := by
  induction tokens generalizing state last with
  | nil =>
      unfold readAll
      cases ended : state.finish with
      | ok e =>
          have whole := (finish_eq_ok_iff.mp ended).placed placed
          exact whole.inside ⟨Nat.le_refl _, reached⟩
      | error cause => exact .inl ⟨[], nothing⟩
  | cons next rest ih =>
      have stands := stand.stand next List.mem_cons_self
      have above := stand.lower next List.mem_cons_self
      have fed := feed_meets reads placed stands above
      unfold readAll
      cases read : state.feed format next with
      | ok move =>
          rw [read] at fed
          cases move with
          | more after => exact ih fed stand.tail (stand.upper next List.mem_cons_self)
          | done whole => exact stands.points rfl
      | error error =>
          rw [read] at fed
          exact fed

end ExprState

end LiteratePages.Code
