import LiteratePages.Page.Segment
import Mathlib.Data.List.Chain

/-!
What the segments of a source are, said without the fold that finds them. A `Segmentation` cuts the
lines into segments of the shapes that their kinds allow, of which no two neighbours combine.
`segments_eq_iff_segmentation` says that every source has exactly one, the one that the fold finds.
-/
namespace LiteratePages

namespace SegmentKind

/-- The kinds of lines that a segment of a kind is made of, in order. -/
def Shape : SegmentKind → List LineKind → Prop
  | .prose, kinds => kinds ≠ [] ∧ ∀ kind ∈ kinds, kind = .prose
  | .blank, kinds => kinds ≠ [] ∧ ∀ kind ∈ kinds, kind = .blank
  | .code, kinds => ∃ rest, kinds = .code :: rest ∧ ∀ kind ∈ rest, kind = .code ∨ kind = .blank
  | .noExecFlag, kinds => kinds = [.noExecFlag]
  | .listing, kinds =>
      ∃ rest, kinds = .noExecFlag :: .code :: rest ∧ ∀ kind ∈ rest, kind = .code ∨ kind = .blank
  | .stdout, _ => False

theorem Shape.ne_nil {kind : SegmentKind} {kinds : List LineKind} (shape : kind.Shape kinds) :
    kinds ≠ [] := by
  cases kind with
  | prose => exact shape.1
  | blank => exact shape.1
  | code => obtain ⟨rest, rfl, _⟩ := shape; simp
  | noExecFlag => subst shape; simp
  | listing => obtain ⟨rest, rfl, _⟩ := shape; simp
  | stdout => exact shape.elim

theorem shape_ofLine (kind : LineKind) : (ofLine kind).Shape [kind] := by
  cases kind <;> simp [ofLine, Shape]

theorem Shape.combine {kind merged : SegmentKind} {kinds : List LineKind} {next : LineKind}
    (shape : kind.Shape kinds) (combined : kind.combine? (ofLine next) = some merged) :
    merged.Shape (kinds ++ [next]) := by
  cases kind <;> cases next <;>
    simp only [ofLine, combine?, reduceCtorEq, Option.some.injEq] at combined <;> subst combined
  case prose.prose | blank.blank =>
    obtain ⟨_, same⟩ := shape
    refine ⟨by simp, fun kind member => ?_⟩
    rcases List.mem_append.mp member with member | member
    · exact same kind member
    · exact List.mem_singleton.mp member
  case noExecFlag.code =>
    subst shape
    exact ⟨[], rfl, by simp⟩
  all_goals
    obtain ⟨rest, rfl, same⟩ := shape
    refine ⟨rest ++ [_], rfl, fun kind member => ?_⟩
    rcases List.mem_append.mp member with member | member
    · exact same kind member
    · simp [List.mem_singleton.mp member]

theorem combine?_shown {kind : SegmentKind} {line : LineKind}
    (goesOn : kind = .code ∨ kind = .listing) (shown : line = .code ∨ line = .blank) :
    kind.combine? (ofLine line) = some kind := by
  rcases goesOn with rfl | rfl <;> rcases shown with rfl | rfl <;> rfl

/-- What does not combine with a segment does not combine with it once it has gone on. -/
theorem combine?_merged_eq_none {left kind next merged : SegmentKind}
    (apart : left.combine? kind = none) (combined : kind.combine? next = some merged) :
    left.combine? merged = none := by
  cases kind <;> cases next <;> simp [combine?] at combined <;> subst combined <;>
    cases left <;> simp_all [combine?]

/-- What does not combine with a segment does not combine with the first line of it. -/
theorem Shape.combine?_first_eq_none {left kind : SegmentKind} {first : LineKind}
    {rest : List LineKind} (shape : kind.Shape (first :: rest))
    (apart : left.combine? kind = none) : left.combine? (ofLine first) = none := by
  cases kind with
  | prose | blank =>
      rw [shape.2 first (by simp)]
      exact apart
  | code =>
      obtain ⟨_, same, _⟩ := shape
      cases same
      exact apart
  | noExecFlag => cases shape; exact apart
  | listing =>
      obtain ⟨_, same, _⟩ := shape
      cases same
      cases left <;> rfl
  | stdout => exact shape.elim

end SegmentKind

namespace Segment

def kinds (segment : Segment) : List LineKind := segment.lines.map LineKind.ofLine

/-- Segments that follow each other without gap or overlap, from line `first` up to but not
including line `next`. -/
def Tile (next : Nat) : Nat → List Segment → Prop
  | first, [] => first = next
  | first, segment :: rest => segment.start = first ∧ Tile next (segment.stop + 1) rest

theorem stop_succ {segment : Segment} (nonempty : segment.lines ≠ []) :
    segment.stop + 1 = segment.start + segment.lines.length := by
  have positive := List.length_pos_iff.mpr nonempty
  simp only [stop]
  omega

theorem lines_ne_nil_of_shape {segment : Segment} (shape : segment.kind.Shape segment.kinds) :
    segment.lines ≠ [] := by
  simpa [kinds] using shape.ne_nil

end Segment

/-- A way to cut lines, of which the first has number `first`, into segments. -/
structure Segmentation (lines : List String) (first : Nat) (segments : List Segment) : Prop where
  covers : segments.flatMap (·.lines) = lines
  nonempty : ∀ segment ∈ segments, segment.lines ≠ []
  tiles : Segment.Tile (first + lines.length) first segments
  shaped : ∀ segment ∈ segments, segment.kind.Shape segment.kinds
  maximal : segments.IsChain fun left right => left.kind.combine? right.kind = none

namespace Segmentation

variable {lines : List String} {number : Nat} {segment : Segment} {segments : List Segment}

theorem nil (number : Nat) : Segmentation [] number [] := ⟨rfl, by simp, rfl, by simp, .nil⟩

theorem cons (shape : segment.kind.Shape segment.kinds)
    (apart : ∀ next ∈ segments.head?, segment.kind.combine? next.kind = none)
    (cut : Segmentation lines (segment.stop + 1) segments) :
    Segmentation (segment.lines ++ lines) segment.start (segment :: segments) := by
  have nonempty := Segment.lines_ne_nil_of_shape shape
  refine ⟨?_, List.forall_mem_cons.mpr ⟨nonempty, cut.nonempty⟩, ⟨rfl, ?_⟩,
    List.forall_mem_cons.mpr ⟨shape, cut.shaped⟩, List.isChain_cons.mpr ⟨apart, cut.maximal⟩⟩
  · rw [List.flatMap_cons, cut.covers]
  · have tiles := cut.tiles
    rw [List.length_append, ← Nat.add_assoc, ← Segment.stop_succ nonempty]
    exact tiles

theorem tail (cut : Segmentation lines number (segment :: segments)) :
    Segmentation (segments.flatMap (·.lines)) (segment.stop + 1) segments := by
  obtain ⟨covers, nonempty, ⟨start, tiles⟩, shaped, maximal⟩ := cut
  refine ⟨rfl, (List.forall_mem_cons.mp nonempty).2, ?_, (List.forall_mem_cons.mp shaped).2,
    maximal.of_cons⟩
  rw [List.flatMap_cons] at covers
  rwa [← covers, List.length_append, ← Nat.add_assoc, ← start,
    ← Segment.stop_succ (nonempty segment (by simp))] at tiles

end Segmentation

namespace Segment

variable {lines : List String} {first number : Nat} {segment current : Segment}
  {segments : List Segment}

/-- The segments that lines are by themselves. -/
def singles (number : Nat) : List String → List Segment
  | [] => []
  | line :: rest => ofLine line number :: singles (number + 1) rest

/-- Combines the open segment `current` with those after it, as far as neighbours combine. -/
def chain (current : Segment) : List Segment → List Segment
  | [] => [current]
  | next :: rest => match current.combine? next with
      | some merged => chain merged rest
      | none => current :: chain next rest

def merge : List Segment → List Segment
  | [] => []
  | first :: rest => chain first rest

theorem foldl_extend (done : List Segment) (current : Segment) (rest : List Segment) :
    (rest.foldl (fun (done, current) next => extend done current next) (done, current)).1 ++
      [(rest.foldl (fun (done, current) next => extend done current next) (done, current)).2] =
      done ++ chain current rest := by
  induction rest generalizing done current with
  | nil => rfl
  | cons next rest ih =>
      cases combined : current.combine? next with
      | some merged =>
          have extended : extend done current next = (done, merged) := by
            simp only [extend, combined]
          simp only [List.foldl_cons, extended, chain, combined]
          exact ih done merged
      | none =>
          have extended : extend done current next = (done ++ [current], next) := by
            simp only [extend, combined]
          simp only [List.foldl_cons, extended, chain, combined]
          rw [ih (done ++ [current]) next, List.append_assoc, List.singleton_append]

theorem fold_eq_chain (first : Segment) (rest : List Segment) :
    fold first rest = chain first rest := by
  simpa [fold] using foldl_extend [] first rest

theorem map_zipIdx_eq_singles (lines : List String) (number : Nat) :
    (lines.zipIdx number).map (fun (line, number) => ofLine (withoutEnd line) number) =
      singles number (lines.map withoutEnd) := by
  induction lines generalizing number with
  | nil => rfl
  | cons line rest ih => simp only [List.zipIdx_cons, List.map_cons, ih, singles]

theorem ofLines_eq_merge (lines : List String) (number : Nat) :
    ofLines lines number = merge (singles number (lines.map withoutEnd)) := by
  unfold ofLines
  rw [map_zipIdx_eq_singles]
  cases singles number (lines.map withoutEnd) with
  | nil => rfl
  | cons first rest => exact fold_eq_chain first rest

theorem combine?_eq_some {merged next : Segment} (combined : current.combine? next = some merged) :
    current.kind.combine? next.kind = some merged.kind ∧
      merged.lines = current.lines ++ next.lines ∧ merged.start = current.start := by
  simp only [combine?, Option.map_eq_some_iff] at combined
  obtain ⟨kind, kinds, rfl⟩ := combined
  exact ⟨kinds, rfl, rfl⟩

theorem combine?_eq_none_iff {next : Segment} :
    current.combine? next = none ↔ current.kind.combine? next.kind = none := by
  simp [combine?]

/-- The open segment goes on to the first of the segments that come out, which starts where it
does, and joins nothing that the open one does not join. -/
theorem chain_eq_cons (current : Segment) (rest : List Segment) :
    ∃ head tail, chain current rest = head :: tail ∧ head.start = current.start ∧
      ∀ left : SegmentKind, left.combine? current.kind = none → left.combine? head.kind = none := by
  induction rest generalizing current with
  | nil => exact ⟨current, [], rfl, rfl, fun _ apart => apart⟩
  | cons next rest ih =>
      cases combined : current.combine? next with
      | none =>
          exact ⟨current, chain next rest, by simp only [chain, combined], rfl,
            fun _ apart => apart⟩
      | some merged =>
          obtain ⟨kinds, _, start⟩ := combine?_eq_some combined
          obtain ⟨head, tail, result, headStart, apart⟩ := ih merged
          refine ⟨head, tail, by simpa only [chain, combined] using result,
            headStart.trans start, ?_⟩
          intro left leftApart
          exact apart left (SegmentKind.combine?_merged_eq_none leftApart kinds)

theorem shape_of_combine? {line : String} {merged : Segment}
    (shape : current.kind.Shape current.kinds)
    (combined : current.combine? (ofLine line number) = some merged) :
    merged.kind.Shape merged.kinds := by
  obtain ⟨kinds, lines, _⟩ := combine?_eq_some combined
  have grown := shape.combine kinds
  rwa [show merged.kinds = current.kinds ++ [LineKind.ofLine line] by
    simp [Segment.kinds, lines, ofLine]]

/-- What one open segment and the lines after it become. -/
theorem segmentation_chain (lines : List String) (shape : current.kind.Shape current.kinds) :
    Segmentation (current.lines ++ lines) current.start
      (chain current (singles (current.stop + 1) lines)) := by
  induction lines generalizing current with
  | nil => exact .cons shape (by simp) (.nil _)
  | cons line rest ih =>
      cases combined : current.combine? (ofLine line (current.stop + 1)) with
      | some merged =>
          obtain ⟨_, mergedLines, start⟩ := combine?_eq_some combined
          change merged.lines = current.lines ++ [line] at mergedLines
          have mergedShape := shape_of_combine? shape combined
          have stop : merged.stop = current.stop + 1 := by
            have next := stop_succ (lines_ne_nil_of_shape shape)
            have mergedNext := stop_succ (lines_ne_nil_of_shape mergedShape)
            rw [mergedLines, start, List.length_append, List.length_singleton] at mergedNext
            omega
          have result := ih mergedShape
          rw [stop, mergedLines, start, List.append_assoc, List.singleton_append] at result
          simpa only [singles, chain, combined] using result
      | none =>
          have apart := combine?_eq_none_iff.mp combined
          have lineShape : (ofLine line (current.stop + 1)).kind.Shape
              (ofLine line (current.stop + 1)).kinds := SegmentKind.shape_ofLine _
          have result := ih lineShape
          obtain ⟨head, tail, after, _, joins⟩ := chain_eq_cons (ofLine line (current.stop + 1))
            (singles (current.stop + 1 + 1) rest)
          have whole : chain current (singles (current.stop + 1) (line :: rest)) =
              current :: chain (ofLine line (current.stop + 1))
                (singles (current.stop + 1 + 1) rest) := by
            simp only [singles, chain, combined]
          rw [whole]
          refine .cons shape ?_ result
          intro next member
          rw [after, List.head?_cons, Option.mem_some_iff] at member
          exact member ▸ joins _ apart

theorem segmentation_merge (lines : List String) (number : Nat) :
    Segmentation lines number (merge (singles number lines)) := by
  cases lines with
  | nil => exact .nil number
  | cons line rest =>
      have shape : (ofLine line number).kind.Shape (ofLine line number).kinds :=
        SegmentKind.shape_ofLine _
      exact segmentation_chain rest shape

/-- An open segment takes the lines that combine with it without a change of kind. -/
theorem chain_absorb (kind : SegmentKind) (done taken rest : List String) (start number : Nat)
    (joins : ∀ line ∈ taken, kind.combine? (.ofLine (LineKind.ofLine line)) = some kind) :
    chain ⟨kind, done, start⟩ (singles number (taken ++ rest)) =
      chain ⟨kind, done ++ taken, start⟩ (singles (number + taken.length) rest) := by
  induction taken generalizing done number with
  | nil => simp
  | cons line taken ih =>
      have combined : combine? ⟨kind, done, start⟩ (ofLine line number) =
          some ⟨kind, done ++ [line], start⟩ := by
        simp [combine?, ofLine, joins line (by simp)]
      have result := ih (done ++ [line]) (number + 1)
        (fun other member => joins other (List.mem_cons_of_mem line member))
      simp only [List.cons_append, singles, chain, combined]
      rw [result, List.append_assoc, List.singleton_append, List.length_cons,
        show number + 1 + taken.length = number + (taken.length + 1) by omega]

/-- Lines that have the shape of a segment become that segment, before what follows them is
looked at. -/
theorem merge_singles_append {kind : SegmentKind} {lines : List String} (rest : List String)
    (number : Nat) (shape : kind.Shape (lines.map LineKind.ofLine)) :
    merge (singles number (lines ++ rest)) =
      chain ⟨kind, lines, number⟩ (singles (number + lines.length) rest) := by
  cases lines with
  | nil => exact absurd rfl shape.ne_nil
  | cons line taken =>
      have absorb := fun kind => chain_absorb kind [line] taken rest number (number + 1)
      have width : number + 1 + taken.length = number + (line :: taken).length := by
        simp only [List.length_cons]
        omega
      simp only [List.cons_append, singles, merge, ofLine]
      rw [width] at absorb
      cases kind with
      | prose | blank =>
          rw [shape.2 (LineKind.ofLine line) (by simp)]
          refine absorb _ fun other member => ?_
          rw [shape.2 (LineKind.ofLine other) (by simp [List.mem_map_of_mem member])]
          rfl
      | code =>
          obtain ⟨_, same, joins⟩ := shape
          simp only [List.map_cons, List.cons.injEq] at same
          rw [same.1]
          refine absorb .code fun other member => ?_
          exact SegmentKind.combine?_shown (.inl rfl)
            (joins _ (same.2 ▸ List.mem_map_of_mem member))
      | noExecFlag =>
          simp only [SegmentKind.Shape, List.map_cons, List.cons.injEq,
            List.map_eq_nil_iff] at shape
          obtain ⟨first, rfl⟩ := shape
          rw [first]
          rfl
      | listing =>
          obtain ⟨_, same, joins⟩ := shape
          cases taken with
          | nil => simp at same
          | cons second taken =>
              simp only [List.map_cons, List.cons.injEq] at same
              obtain ⟨flag, code, same⟩ := same
              have combined : combine? ⟨.noExecFlag, [line], number⟩ (ofLine second (number + 1)) =
                  some ⟨.listing, [line, second], number⟩ := by
                simp [combine?, ofLine, code, SegmentKind.ofLine, SegmentKind.combine?]
              rw [flag]
              simp only [SegmentKind.ofLine, List.cons_append, singles, chain, combined]
              rw [chain_absorb .listing [line, second] taken rest number _ ?_, ← width]
              · simp only [List.cons_append, List.nil_append, List.length_cons]
                rw [show number + 1 + 1 + taken.length = number + 1 + (taken.length + 1) by omega]
              · intro other member
                exact SegmentKind.combine?_shown (.inr rfl)
                  (joins _ (same ▸ List.mem_map_of_mem member))
      | stdout => exact shape.elim

/-- There is no other segmentation than the one that the fold finds. -/
theorem merge_eq_of_segmentation (cut : Segmentation lines first segments) :
    merge (singles first lines) = segments := by
  induction segments generalizing lines first with
  | nil =>
      have empty : lines = [] := cut.covers.symm
      rw [empty]
      rfl
  | cons segment rest ih =>
      have after := ih cut.tail
      obtain ⟨covers, nonempty, ⟨start, _⟩, shaped, maximal⟩ := cut
      rw [stop_succ (nonempty segment (by simp))] at after
      obtain ⟨kind, own, number⟩ := segment
      cases start
      dsimp only at after
      rw [List.flatMap_cons] at covers
      rw [← covers, merge_singles_append _ _ (shaped ⟨kind, own, number⟩ (by simp))]
      cases rest with
      | nil => rfl
      | cons following rest =>
          have apart := maximal.rel
          have shape := shaped following (by simp)
          cases lines : following.lines with
          | nil => exact absurd lines (nonempty following (by simp))
          | cons line others =>
              rw [Segment.kinds, lines] at shape
              -- The next segment starts with a line that does not join, so the open one ends here.
              have boundary :
                  combine? ⟨kind, own, number⟩ (ofLine line (number + own.length)) = none :=
                combine?_eq_none_iff.mpr (shape.combine?_first_eq_none apart)
              rw [List.flatMap_cons, lines, List.cons_append] at after ⊢
              simp only [singles, chain, boundary]
              simp only [singles, merge] at after
              rw [after]

theorem segmentation_ofLines (lines : List String) (number : Nat) :
    Segmentation (lines.map withoutEnd) number (ofLines lines number) := by
  rw [ofLines_eq_merge]
  exact segmentation_merge _ _

theorem ofLines_eq_of_segmentation (cut : Segmentation (lines.map withoutEnd) number segments) :
    ofLines lines number = segments := by
  rw [ofLines_eq_merge]
  exact merge_eq_of_segmentation cut

/-- The segment as it is called when `lines` lines stand before its source. -/
def renumber (lines : Nat) (segment : Segment) : Segment :=
  { segment with start := segment.start + lines }

theorem chain_renumber (before : Nat) (current : Segment) (rest : List Segment) :
    chain (current.renumber before) (rest.map (renumber before)) =
      (chain current rest).map (renumber before) := by
  induction rest generalizing current with
  | nil => rfl
  | cons next rest ih =>
      have combined : (current.renumber before).combine? (next.renumber before) =
          (current.combine? next).map (renumber before) := by
        simp only [combine?, renumber, Option.map_map]
        rfl
      simp only [List.map_cons, chain, combined]
      cases current.combine? next with
      | some merged => exact ih merged
      | none => simp only [Option.map_none, List.map_cons, ih next]

theorem singles_add (before number : Nat) (lines : List String) :
    singles (number + before) lines = (singles number lines).map (renumber before) := by
  induction lines generalizing number with
  | nil => rfl
  | cons line rest ih =>
      simp only [singles, List.map_cons, ← ih,
        show number + before + 1 = number + 1 + before by omega]
      rfl

theorem ofLines_add (before number : Nat) (lines : List String) :
    ofLines lines (number + before) = (ofLines lines number).map (renumber before) := by
  rw [ofLines_eq_merge, ofLines_eq_merge, singles_add]
  cases singles number (lines.map withoutEnd) with
  | nil => rfl
  | cons first rest => exact chain_renumber before first rest

/-- A source without lines is the only one without segments. Every other one has one segmentation
and no more, which is what the fold finds: its segments are the lines without their ends, cut into
pieces of the allowed shapes that tile the lines from the first to the last and of which no two
neighbours combine. -/
theorem segments_eq_iff_segmentation (lines : List String) :
    (Segment.segments lines = [] ↔ lines = []) ∧
      ∀ segments : List Segment, Segment.segments lines = segments ↔
        Segmentation (lines.map withoutEnd) 1 segments := by
  have cut : Segmentation (lines.map withoutEnd) 1 (Segment.segments lines) :=
    segmentation_ofLines lines 1
  refine ⟨⟨fun none => ?_, fun none => by rw [none]; rfl⟩, fun segments => ⟨?_, ?_⟩⟩
  · have covers := cut.covers
    rw [none] at covers
    exact List.map_eq_nil_iff.mp covers.symm
  · intro same
    exact same ▸ cut
  · exact ofLines_eq_of_segmentation

end Segment
end LiteratePages
