import LiteratePages.Proofs.Page.Metadata

namespace LiteratePages

/-- The kind of line `number`, counted from one. -/
def lineKind? (lines : List String) : Nat → Option LineKind
  | 0 => none
  | index + 1 => lines[index]?.map LineKind.ofLine

/-- Line `number` is prose or a flag, which is what code ends before. -/
def IsBar (lines : List String) (number : Nat) : Prop :=
  lineKind? lines number = some .prose ∨ lineKind? lines number = some .noExecFlag

/-- The lines from `first` to `last` are a run of code after line `block`. Line `bar` is the last
prose or flag above it, and no code stands between that and the run; the run goes on to the line
before the next prose or flag, or to the end. -/
structure CodeRun (lines : List String) (block bar first last : Nat) : Prop where
  after : block < first
  code : lineKind? lines first = some .code
  above : bar < first
  isBar : IsBar lines bar
  noBarBetween : ∀ number, bar < number → number < first → ¬IsBar lines number
  noCodeBetween : ∀ number, bar < number → number < first → lineKind? lines number ≠ some .code
  first_le : first ≤ last
  last_le : last ≤ lines.length
  noBarInside : ∀ number, first ≤ number → number ≤ last → ¬IsBar lines number
  ends : last = lines.length ∨ IsBar lines (last + 1)

/-- A flag stands directly above the run that starts on line `first`, so it is shown and not
run. -/
def IsFlagged (lines : List String) (bar first : Nat) : Prop :=
  lineKind? lines bar = some .noExecFlag ∧ bar + 1 = first

def lineText (lines : List String) (first last : Nat) : String :=
  joinLines ((lines.drop (first - 1)).take (last + 1 - first))

/-- Code that was handed to an executor, the line it starts on, and what came of it. -/
structure CodeCall where
  line : Nat
  code : String
  execution : Execution

/-- Hands pieces of code, each with its line, to an executor one after the other, up to the first
that fails. Each runs in the scope that the one before it left. -/
def handOver (executor : Executor) : Scope → List (Nat × String) → List CodeCall
  | _, [] => []
  | scope, (line, code) :: rest =>
      let execution := executor code scope
      ⟨line, code, execution⟩ :: match execution.result with
        | .ok () => handOver executor execution.scope rest
        | .error _ => []

namespace CodeRun

variable {lines : List String} {block bar first last otherBar otherFirst otherLast : Nat}

/-- Two runs that share a line start on the same line, below the same bar. -/
theorem start_unique (run : CodeRun lines block bar first last)
    (other : CodeRun lines block otherBar otherFirst otherLast)
    (below : first ≤ otherFirst) (overlap : otherFirst ≤ last) :
    otherBar = bar ∧ otherFirst = first := by
  -- The other bar is no line of the run, so it stands above; each bar is then the last above the run.
  have barAbove : otherBar < first := by
    by_contra inside
    exact run.noBarInside otherBar (by omega) (by have := other.above; omega) other.isBar
  have sameBar : otherBar = bar := by
    rcases Nat.lt_trichotomy otherBar bar with less | same | more
    · exact absurd run.isBar (other.noBarBetween bar less (by have := run.above; omega))
    · exact same
    · exact absurd other.isBar (run.noBarBetween otherBar more barAbove)
  refine ⟨sameBar, ?_⟩
  by_contra different
  exact other.noCodeBetween first barAbove (by omega) run.code

theorem last_unique (run : CodeRun lines block bar first last)
    (other : CodeRun lines block otherBar first otherLast) : otherLast = last := by
  have end_le : ∀ {bar otherBar last otherLast}, CodeRun lines block bar first last →
      CodeRun lines block otherBar first otherLast → otherLast ≤ last := by
    intro bar otherBar last otherLast run other
    by_contra longer
    rcases run.ends with whole | next
    · have := other.last_le
      omega
    · exact other.noBarInside (last + 1) (by have := run.first_le; omega) (by omega) next
  exact Nat.le_antisymm (end_le run other) (end_le other run)

/-- No line of a flagged run is a line of a run that is not flagged. -/
theorem disjoint_of_flagged (run : CodeRun lines block bar first last)
    (flagged : IsFlagged lines bar first)
    (other : CodeRun lines block otherBar otherFirst otherLast)
    (free : ¬IsFlagged lines otherBar otherFirst) : last < otherFirst ∨ otherLast < first := by
  by_contra overlap
  have overlap := not_or.mp overlap
  rcases Nat.le_total first otherFirst with below | above
  · obtain ⟨rfl, rfl⟩ := run.start_unique other below (by omega)
    exact free flagged
  · obtain ⟨rfl, rfl⟩ := other.start_unique run above (by omega)
    exact free flagged

end CodeRun

namespace Segmentation

variable {lines : List String} {block number : Nat} {segment : Segment}
  {before after segments : List Segment}

theorem tile_append {next first : Nat} (tiles : Segment.Tile next first (before ++ after))
    (nonempty : ∀ segment ∈ before, segment.lines ≠ []) :
    Segment.Tile next (first + (before.flatMap (·.lines)).length) after := by
  induction before generalizing first with
  | nil => exact tiles
  | cons segment before ih =>
      obtain ⟨start, rest⟩ := tiles
      have width := Segment.stop_succ (nonempty segment (by simp))
      have result := ih rest fun other member =>
        nonempty other (List.mem_cons_of_mem segment member)
      rw [width, start] at result
      simpa only [List.flatMap_cons, List.length_append, Nat.add_assoc] using result

theorem start_eq (cut : Segmentation lines number (before ++ segment :: after)) :
    segment.start = number + (before.flatMap (·.lines)).length :=
  (tile_append cut.tiles fun other member => cut.nonempty other (by simp [member])).1

theorem lines_eq (cut : Segmentation lines number (before ++ segment :: after)) :
    segment.lines = (lines.drop (segment.start - number)).take segment.lines.length := by
  have covers := cut.covers
  rw [List.flatMap_append, List.flatMap_cons] at covers
  rw [cut.start_eq, Nat.add_sub_cancel_left, ← covers, List.drop_left, List.take_left]

theorem le_start_of_tile {next first : Nat} (tiles : Segment.Tile next first segments)
    (nonempty : ∀ segment ∈ segments, segment.lines ≠ []) :
    ∀ segment ∈ segments, first ≤ segment.start := by
  induction segments generalizing first with
  | nil => simp
  | cons head rest ih =>
      obtain ⟨start, tiles⟩ := tiles
      have width := Segment.stop_succ (nonempty head (by simp))
      have later := ih tiles fun other member => nonempty other (List.mem_cons_of_mem head member)
      intro segment member
      rcases List.mem_cons.mp member with rfl | member
      · exact start.ge
      · have := later segment member
        omega

theorem sorted (cut : Segmentation lines number segments) :
    segments.Pairwise fun left right => left.start < right.start := by
  have tiles := cut.tiles
  have nonempty := cut.nonempty
  clear cut
  generalize number + lines.length = next at tiles
  induction segments generalizing number with
  | nil => exact .nil
  | cons head rest ih =>
      have restNonempty := fun other member => nonempty other (List.mem_cons_of_mem head member)
      refine .cons (fun other member => ?_) (ih restNonempty tiles.2)
      have later := le_start_of_tile tiles.2 restNonempty other member
      have width := Segment.stop_succ (nonempty head (by simp))
      have positive := List.length_pos_iff.mpr (nonempty head (by simp))
      omega

theorem exists_of_tile {next first line : Nat} (tiles : Segment.Tile next first segments)
    (nonempty : ∀ segment ∈ segments, segment.lines ≠ []) (lower : first ≤ line)
    (upper : line < next) :
    ∃ segment ∈ segments, segment.start ≤ line ∧ line ≤ segment.stop := by
  induction segments generalizing first with
  | nil =>
      have same : first = next := tiles
      omega
  | cons head rest ih =>
      obtain ⟨start, tiles⟩ := tiles
      by_cases inside : line ≤ head.stop
      · exact ⟨head, by simp, start ▸ lower, inside⟩
      · obtain ⟨segment, member, found⟩ := ih tiles
          (fun other member => nonempty other (List.mem_cons_of_mem head member)) (by omega)
        exact ⟨segment, List.mem_cons_of_mem head member, found⟩

section Runs

variable {bar first last : Nat}

theorem exists_segment (cut : Segmentation (lines.drop block) (block + 1) segments)
    (lower : block < number) (upper : number ≤ lines.length) :
    ∃ segment ∈ segments, segment.start ≤ number ∧ number ≤ segment.stop := by
  refine exists_of_tile cut.tiles cut.nonempty lower ?_
  rw [List.length_drop]
  omega

theorem lineKind?_start_add (cut : Segmentation (lines.drop block) (block + 1) segments)
    (member : segment ∈ segments) (offset : Nat) (inside : offset < segment.lines.length) :
    lineKind? lines (segment.start + offset) = segment.kinds[offset]? := by
  obtain ⟨before, after, rfl⟩ := List.append_of_mem member
  have start := cut.start_eq
  have own := congrArg (·[offset]?) cut.lines_eq
  simp only [List.getElem?_take, inside, if_true, List.getElem?_drop] at own
  rw [show segment.start + offset = block + (segment.start - (block + 1) + offset) + 1 by omega,
    lineKind?, Segment.kinds, List.getElem?_map, own]

theorem stop_le (cut : Segmentation (lines.drop block) (block + 1) segments)
    (member : segment ∈ segments) : segment.stop ≤ lines.length := by
  obtain ⟨before, after, rfl⟩ := List.append_of_mem member
  have covers := congrArg List.length cut.covers
  have width := Segment.stop_succ (cut.nonempty segment (by simp))
  have positive := List.length_pos_iff.mpr (cut.nonempty segment (by simp))
  rw [List.flatMap_append, List.flatMap_cons, List.length_append, List.length_append,
    List.length_drop] at covers
  have start := cut.start_eq
  omega

theorem kinds_length (segment : Segment) : segment.kinds.length = segment.lines.length :=
  List.length_map _

theorem not_isBar_of_kind {kind : LineKind} (found : lineKind? lines number = some kind)
    (shown : kind = .code ∨ kind = .blank) : ¬IsBar lines number := by
  rintro (prose | flag)
  · rw [found] at prose
    rcases shown with rfl | rfl <;> cases prose
  · rw [found] at flag
    rcases shown with rfl | rfl <;> cases flag

theorem exists_offset (cut : Segmentation (lines.drop block) (block + 1) segments)
    (member : segment ∈ segments) (lower : segment.start ≤ number) (upper : number ≤ segment.stop) :
    ∃ offset, number = segment.start + offset ∧ offset < segment.lines.length := by
  have width := Segment.stop_succ (cut.nonempty segment member)
  exact ⟨number - segment.start, by omega, by omega⟩

/-- The first line of a segment of code is code, and no line of it is a bar. -/
theorem code_lines (cut : Segmentation (lines.drop block) (block + 1) segments)
    (member : segment ∈ segments) (code : segment.kind = .code) :
    lineKind? lines segment.start = some .code ∧
      ∀ number, segment.start ≤ number → number ≤ segment.stop → ¬IsBar lines number := by
  obtain ⟨rest, kinds, others⟩ : SegmentKind.code.Shape segment.kinds :=
    code ▸ cut.shaped segment member
  have positive := List.length_pos_iff.mpr (cut.nonempty segment member)
  constructor
  · have first := cut.lineKind?_start_add member 0 positive
    rwa [kinds] at first
  · intro number lower upper
    obtain ⟨offset, rfl, inside⟩ := cut.exists_offset member lower upper
    have found := cut.lineKind?_start_add member _ inside
    rw [kinds] at found
    cases offset with
    | zero => exact not_isBar_of_kind found (.inl rfl)
    | succ offset =>
        rw [List.getElem?_cons_succ] at found
        rw [← kinds_length, kinds, List.length_cons] at inside
        rw [List.getElem?_eq_getElem (by omega)] at found
        exact not_isBar_of_kind found (others _ (List.getElem_mem _))

/-- The first line of a listing is a flag and the second is code; the others are no bars. -/
theorem listing_lines (cut : Segmentation (lines.drop block) (block + 1) segments)
    (member : segment ∈ segments) (listing : segment.kind = .listing) :
    lineKind? lines segment.start = some .noExecFlag ∧
      lineKind? lines (segment.start + 1) = some .code ∧
      ∀ number, segment.start < number → number ≤ segment.stop → ¬IsBar lines number := by
  obtain ⟨rest, kinds, others⟩ : SegmentKind.listing.Shape segment.kinds :=
    listing ▸ cut.shaped segment member
  have width : segment.lines.length = rest.length + 2 := by
    rw [← kinds_length, kinds, List.length_cons, List.length_cons]
  have first := cut.lineKind?_start_add member 0 (by omega)
  have second := cut.lineKind?_start_add member 1 (by omega)
  rw [kinds] at first second
  refine ⟨first, second, fun number lower upper => ?_⟩
  obtain ⟨offset, rfl, inside⟩ := cut.exists_offset member lower.le upper
  have found := cut.lineKind?_start_add member _ inside
  rw [kinds] at found
  match offset with
  | 0 => exact absurd lower (Nat.lt_irrefl _)
  | 1 => exact not_isBar_of_kind found (.inl rfl)
  | offset + 2 =>
      rw [List.getElem?_cons_succ, List.getElem?_cons_succ,
        List.getElem?_eq_getElem (by omega)] at found
      exact not_isBar_of_kind found (others _ (List.getElem_mem _))

theorem blank_lines (cut : Segmentation (lines.drop block) (block + 1) segments)
    (member : segment ∈ segments) (blank : segment.kind = .blank) (lower : segment.start ≤ number)
    (upper : number ≤ segment.stop) : lineKind? lines number = some .blank := by
  obtain ⟨_, same⟩ : SegmentKind.blank.Shape segment.kinds := blank ▸ cut.shaped segment member
  obtain ⟨offset, rfl, inside⟩ := cut.exists_offset member lower upper
  have found := cut.lineKind?_start_add member _ inside
  rw [← kinds_length] at inside
  rw [found, List.getElem?_eq_getElem inside, same _ (List.getElem_mem _)]

theorem prose_stop (cut : Segmentation (lines.drop block) (block + 1) segments)
    (member : segment ∈ segments) (prose : segment.kind = .prose) :
    lineKind? lines segment.stop = some .prose := by
  obtain ⟨_, same⟩ : SegmentKind.prose.Shape segment.kinds := prose ▸ cut.shaped segment member
  have positive := List.length_pos_iff.mpr (cut.nonempty segment member)
  have inside : segment.lines.length - 1 < segment.lines.length := by omega
  have found := cut.lineKind?_start_add member _ inside
  rw [← kinds_length] at inside
  rw [← kinds_length, List.getElem?_eq_getElem (by omega), same _ (List.getElem_mem _),
    kinds_length] at found
  exact found

theorem flag_stop (cut : Segmentation (lines.drop block) (block + 1) segments)
    (member : segment ∈ segments) (flag : segment.kind = .noExecFlag) :
    lineKind? lines segment.stop = some .noExecFlag := by
  have kinds : segment.kinds = [.noExecFlag] := by
    have shape := cut.shaped segment member
    rwa [flag] at shape
  have width : segment.lines.length = 1 := by
    rw [← kinds_length, kinds]
    rfl
  have found := cut.lineKind?_start_add member 0 (by omega)
  rw [kinds] at found
  rwa [Segment.stop, width]

/-- A segment follows the block directly, or another segment with which it does not combine. -/
theorem previous (cut : Segmentation (lines.drop block) (block + 1) (before ++ segment :: after)) :
    segment.start = block + 1 ∨ ∃ left ∈ before ++ segment :: after,
      left.stop + 1 = segment.start ∧ left.kind.combine? segment.kind = none ∧
      ∃ earlier, before = earlier ++ [left] := by
  rcases List.eq_nil_or_concat before with rfl | ⟨earlier, left, rfl⟩
  · exact .inl (cut.tiles.1)
  · refine .inr ⟨left, by simp, ?_, ?_, earlier, by simp⟩
    · have tiles := cut.tiles
      simp only [List.concat_eq_append, List.append_assoc, List.singleton_append] at tiles
      exact (tile_append tiles fun other member => cut.nonempty other (by simp [member])).2.1.symm
    · have maximal := cut.maximal
      simp only [List.concat_eq_append, List.append_assoc, List.singleton_append] at maximal
      exact (List.isChain_append_cons_cons.mp maximal).2.1

theorem bar_above_blank
    (cut : Segmentation (lines.drop block) (block + 1) (before ++ segment :: after))
    (prose : lineKind? lines block = some .prose) (blank : segment.kind = .blank) :
    IsBar lines (segment.start - 1) := by
  rcases cut.previous with start | ⟨left, member, stop, apart, _⟩
  · rw [start]
    exact .inl prose
  · rw [← stop, Nat.add_sub_cancel]
    rw [blank] at apart
    cases kind : left.kind with
    | prose => exact .inl (cut.prose_stop member kind)
    | noExecFlag => exact .inr (cut.flag_stop member kind)
    | stdout => exact ((kind ▸ cut.shaped left member : SegmentKind.stdout.Shape left.kinds)).elim
    | _ =>
        rw [kind] at apart
        cases apart

/-- Above a segment of code there are blank lines at most, and then prose, or a flag that does not
stand directly above the code. -/
theorem bar_above_code
    (cut : Segmentation (lines.drop block) (block + 1) (before ++ segment :: after))
    (prose : lineKind? lines block = some .prose) (code : segment.kind = .code) :
    ∃ bar, bar < segment.start ∧ IsBar lines bar ∧ ¬IsFlagged lines bar segment.start ∧
      ∀ number, bar < number → number < segment.start → lineKind? lines number = some .blank := by
  have directly : ∀ bar, bar + 1 = segment.start → lineKind? lines bar = some .prose →
      ∃ bar, bar < segment.start ∧ IsBar lines bar ∧ ¬IsFlagged lines bar segment.start ∧
        ∀ number, bar < number → number < segment.start → lineKind? lines number = some .blank := by
    intro bar next kind
    refine ⟨bar, by omega, .inl kind, fun flagged => ?_, fun number lower upper => by omega⟩
    have flag := flagged.1
    rw [kind] at flag
    cases flag
  rcases cut.previous with start | ⟨left, member, stop, apart, earlier, rfl⟩
  · exact directly block start.symm prose
  · rw [code] at apart
    cases kind : left.kind with
    | prose => exact directly left.stop stop (cut.prose_stop member kind)
    | blank =>
        have blankCut : Segmentation (lines.drop block) (block + 1)
            (earlier ++ left :: (segment :: after)) := by simpa using cut
        have leftStart := blankCut.start_eq
        have leftStop : left.start ≤ left.stop := Nat.le_add_right _ _
        refine ⟨left.start - 1, by omega, blankCut.bar_above_blank prose kind, ?_, ?_⟩
        · intro flagged
          have directly := flagged.2
          omega
        · intro number lower upper
          exact cut.blank_lines member kind (by omega) (by omega)
    | stdout => exact ((kind ▸ cut.shaped left member : SegmentKind.stdout.Shape left.kinds)).elim
    | _ =>
        rw [kind] at apart
        cases apart

/-- Below a segment of code there is nothing, or prose or a flag. -/
theorem bar_below_code
    (cut : Segmentation (lines.drop block) (block + 1) (before ++ segment :: after))
    (code : segment.kind = .code) :
    segment.stop = lines.length ∨ IsBar lines (segment.stop + 1) := by
  have tiles := tile_append cut.tiles fun other member => cut.nonempty other (by simp [member])
  cases after with
  | nil =>
      left
      have stop : segment.stop + 1 = block + 1 + (lines.drop block).length := tiles.2
      have width := Segment.stop_succ (cut.nonempty segment (by simp))
      have positive := List.length_pos_iff.mpr (cut.nonempty segment (by simp))
      have start := tiles.1
      rw [List.length_drop] at stop
      omega
  | cons next rest =>
      right
      have apart := (List.isChain_append_cons_cons.mp cut.maximal).2.1
      have member : next ∈ before ++ segment :: next :: rest := by simp
      have positive := List.length_pos_iff.mpr (cut.nonempty next member)
      have found := cut.lineKind?_start_add member 0 positive
      rw [← tiles.2.1]
      rw [code] at apart
      have shape := cut.shaped next member
      cases kind : next.kind with
      | prose =>
          rw [kind] at shape
          rw [← kinds_length] at positive
          rw [List.getElem?_eq_getElem positive, shape.2 _ (List.getElem_mem _)] at found
          exact .inl found
      | noExecFlag =>
          rw [kind] at shape
          rw [show next.kinds = [.noExecFlag] from shape] at found
          exact .inr found
      | listing => exact .inr (cut.listing_lines member kind).1
      | stdout => rw [kind] at shape; exact shape.elim
      | _ =>
          rw [kind] at apart
          cases apart

/-- A segment of code is a run that is not flagged. -/
theorem codeRun_of_segment (cut : Segmentation (lines.drop block) (block + 1) segments)
    (prose : lineKind? lines block = some .prose) (member : segment ∈ segments)
    (code : segment.kind = .code) :
    ∃ bar, CodeRun lines block bar segment.start segment.stop ∧
      ¬IsFlagged lines bar segment.start := by
  obtain ⟨before, after, rfl⟩ := List.append_of_mem member
  obtain ⟨bar, above, isBar, free, between⟩ := cut.bar_above_code prose code
  obtain ⟨first, inside⟩ := cut.code_lines member code
  have start := cut.start_eq
  refine ⟨bar, ⟨by omega, first, above, isBar, ?_, ?_, Nat.le_add_right _ _, cut.stop_le member,
    inside, cut.bar_below_code code⟩, free⟩
  · intro number lower upper
    exact not_isBar_of_kind (between number lower upper) (.inr rfl)
  · intro number lower upper
    rw [between number lower upper]
    intro code
    cases code

/-- A run that is not flagged is a segment of code. -/
theorem exists_segment_of_codeRun (cut : Segmentation (lines.drop block) (block + 1) segments)
    (prose : lineKind? lines block = some .prose) (run : CodeRun lines block bar first last)
    (free : ¬IsFlagged lines bar first) :
    ∃ segment ∈ segments, segment.kind = .code ∧ segment.start = first ∧ segment.stop = last := by
  obtain ⟨segment, member, lower, upper⟩ :=
    cut.exists_segment run.after (run.first_le.trans run.last_le)
  have held : LineKind.code ∈ segment.kinds := by
    obtain ⟨offset, place, inside⟩ := cut.exists_offset member lower upper
    have kind := cut.lineKind?_start_add member _ inside
    rw [← place, run.code] at kind
    exact List.mem_of_getElem? kind.symm
  have shape := cut.shaped segment member
  cases is : segment.kind with
  | code =>
      obtain ⟨_, own, _⟩ := cut.codeRun_of_segment prose member is
      obtain ⟨_, rfl⟩ := own.start_unique run lower upper
      exact ⟨segment, member, is, rfl, run.last_unique own⟩
  | listing =>
      obtain ⟨flag, second, noBar⟩ := cut.listing_lines member is
      have barBelow := run.above
      have later : segment.start ≠ first := by
        intro same
        have code := run.code
        rw [← same, flag] at code
        cases code
      -- The bar above the run is the flag of the listing, so the run starts right below it.
      have sameBar : bar = segment.start := by
        rcases Nat.lt_trichotomy bar segment.start with higher | same | within
        · exact absurd (.inr flag) (run.noBarBetween segment.start higher (by omega))
        · exact same
        · exact absurd run.isBar (noBar bar within (by omega))
      have directly : bar + 1 = first := by
        by_contra lower
        exact run.noCodeBetween (segment.start + 1) (by omega) (by omega) second
      exact absurd ⟨sameBar ▸ flag, directly⟩ free
  | prose =>
      rw [is] at shape
      cases shape.2 _ held
  | blank =>
      rw [is] at shape
      cases shape.2 _ held
  | noExecFlag =>
      rw [is] at shape
      rw [show segment.kinds = [.noExecFlag] from shape] at held
      cases List.mem_singleton.mp held
  | stdout =>
      rw [is] at shape
      exact shape.elim

theorem source_eq (cut : Segmentation (lines.drop block) (block + 1) segments)
    (member : segment ∈ segments) : segment.source = lineText lines segment.start segment.stop := by
  obtain ⟨before, after, rfl⟩ := List.append_of_mem member
  have start := cut.start_eq
  have width := Segment.stop_succ (cut.nonempty segment member)
  have own := cut.lines_eq
  rw [List.drop_drop] at own
  rw [Segment.source, lineText, width, Nat.add_sub_cancel_left,
    show segment.start - 1 = block + (segment.start - (block + 1)) by omega, ← own]

end Runs

end Segmentation

/-- The code that runs when segments are rendered, each piece with the line that it starts on. -/
def codeSegments (segments : List Segment) : List (Nat × String) :=
  (segments.filter (·.kind = .code)).map fun segment => (segment.start, segment.source)

theorem mem_codeSegments_iff {lines : List String} {block line : Nat} {code : String}
    {segments : List Segment} (cut : Segmentation (lines.drop block) (block + 1) segments)
    (prose : lineKind? lines block = some .prose) :
    (line, code) ∈ codeSegments segments ↔ ∃ bar last, CodeRun lines block bar line last ∧
      ¬IsFlagged lines bar line ∧ code = lineText lines line last := by
  constructor
  · intro member
    obtain ⟨segment, held, same⟩ := List.mem_map.mp member
    obtain ⟨held, kind⟩ := List.mem_filter.mp held
    cases same
    obtain ⟨bar, run, free⟩ := cut.codeRun_of_segment prose held (of_decide_eq_true kind)
    exact ⟨bar, segment.stop, run, free, cut.source_eq held⟩
  · rintro ⟨bar, last, run, free, rfl⟩
    obtain ⟨segment, held, kind, rfl, rfl⟩ := cut.exists_segment_of_codeRun prose run free
    refine List.mem_map.mpr ⟨segment, List.mem_filter.mpr ⟨held, decide_eq_true kind⟩, ?_⟩
    rw [cut.source_eq held]

theorem sorted_codeSegments {lines : List String} {number : Nat} {segments : List Segment}
    (cut : Segmentation lines number segments) :
    (codeSegments segments).Pairwise fun left right => left.1 < right.1 :=
  List.pairwise_map.mpr (cut.sorted.filter _)

/-- What became of handing over code: either all of it was handed over and ran, or one piece
failed, nothing after it was handed over, and the failure is reported with that piece. -/
def HandedOver {α : Type} (code : List (Nat × String)) (calls : List CodeCall)
    (result : Except PageError α) : Prop :=
  ((∃ value, result = .ok value) ∧ calls.map (fun call => (call.line, call.code)) = code ∧
    ∀ call ∈ calls, call.execution.result = .ok ()) ∨
  ∃ done call error later, calls = done ++ [call] ∧
    code = calls.map (fun call => (call.line, call.code)) ++ later ∧
    (∀ call ∈ done, call.execution.result = .ok ()) ∧ call.execution.result = .error error ∧
    result = .error (.execution call.line call.code error)

/-- What calls leave in the journal: each piece of code, and what its own run left there. -/
def callJournal (calls : List CodeCall) : Journal :=
  calls.flatMap fun call => .ran call.code :: call.execution.journal

section Handing

variable {α β : Type} {code : List (Nat × String)} {calls : List CodeCall}
  {result : Except PageError α} {executor : Executor} {scope : Scope} {segment : Segment}

theorem HandedOver.map (change : α → β) (outcome : HandedOver code calls result) :
    HandedOver code calls (result.map change) := by
  rcases outcome with ⟨⟨value, rfl⟩, all⟩ |
    ⟨done, call, error, later, calls, left, fine, failed, rfl⟩
  · exact .inl ⟨⟨_, rfl⟩, all⟩
  · exact .inr ⟨done, call, error, later, calls, left, fine, failed, rfl⟩

theorem HandedOver.cons {call : CodeCall} (ran : call.execution.result = .ok ())
    (outcome : HandedOver code calls result) :
    HandedOver ((call.line, call.code) :: code) (call :: calls) result := by
  rcases outcome with ⟨value, all, fine⟩ |
    ⟨done, failing, error, later, rfl, left, fine, failed, result⟩
  · exact .inl ⟨value, by rw [List.map_cons, all], List.forall_mem_cons.mpr ⟨ran, fine⟩⟩
  · refine .inr ⟨call :: done, failing, error, later, rfl, ?_,
      List.forall_mem_cons.mpr ⟨ran, fine⟩, failed, result⟩
    rw [List.map_cons, List.cons_append, ← left]

theorem execute_of_ne_code (other : segment.kind ≠ .code) :
    segment.execute executor scope = ⟨.ok none, scope, []⟩ := by
  rw [Segment.execute, if_pos other]

theorem execute_of_ok (code : segment.kind = .code)
    (ran : (executor segment.source scope).result = .ok ()) :
    segment.execute executor scope =
      ⟨.ok (some (Segment.stdout (trim (executor segment.source scope).output) segment.start)),
        (executor segment.source scope).scope,
        .ran segment.source :: (executor segment.source scope).journal⟩ := by
  have content : segment.content = segment.source := by simp only [Segment.content, code]
  rw [Segment.execute, if_neg (not_not_intro code)]
  simp only [content, ran]

theorem execute_of_error {error : ExecutionError} (code : segment.kind = .code)
    (failed : (executor segment.source scope).result = .error error) :
    segment.execute executor scope =
      ⟨.error (.execution segment.start segment.source error),
        (executor segment.source scope).scope,
        .ran segment.source :: (executor segment.source scope).journal⟩ := by
  have content : segment.content = segment.source := by simp only [Segment.content, code]
  rw [Segment.execute, if_neg (not_not_intro code)]
  simp only [content, failed]

theorem codeSegments_cons_code {rest : List Segment} (code : segment.kind = .code) :
    codeSegments (segment :: rest) = (segment.start, segment.source) :: codeSegments rest := by
  simp [codeSegments, code]

theorem codeSegments_cons_other {rest : List Segment} (other : segment.kind ≠ .code) :
    codeSegments (segment :: rest) = codeSegments rest := by
  simp [codeSegments, other]

end Handing

theorem renderSegments_handOver (executor : Executor) (scope : Scope) (segments : List Segment) :
    (renderSegments executor scope segments).journal =
        callJournal (handOver executor scope (codeSegments segments)) ∧
      HandedOver (codeSegments segments) (handOver executor scope (codeSegments segments))
        (renderSegments executor scope segments).result := by
  induction segments generalizing scope with
  | nil => exact ⟨rfl, .inl ⟨⟨[], rfl⟩, rfl, by simp [handOver, codeSegments]⟩⟩
  | cons segment rest ih =>
      by_cases kind : segment.kind = .code
      · rw [codeSegments_cons_code kind]
        cases ran : (executor segment.source scope).result with
        | error error =>
            simp only [renderSegments, execute_of_error kind ran, handOver, ran]
            refine ⟨by simp [callJournal], .inr ⟨[], _, error, codeSegments rest, rfl, rfl, ?_, ran,
              rfl⟩⟩
            simp
        | ok _ =>
            obtain ⟨journal, outcome⟩ := ih (executor segment.source scope).scope
            simp only [renderSegments, execute_of_ok kind ran, handOver, ran]
            refine ⟨by simp [callJournal, journal], ?_⟩
            exact (HandedOver.cons ran outcome).map _
      · rw [codeSegments_cons_other kind]
        obtain ⟨journal, outcome⟩ := ih scope
        simp only [renderSegments, execute_of_ne_code kind, List.nil_append]
        exact ⟨journal, outcome.map _⟩

theorem MetadataBlock.lineKind?_last {lines : List String} {metadata : Metadata} {last : Nat}
    (block : MetadataBlock lines metadata last)
    (bare : ∀ line ∈ lines, Text.Bare line.toList) : lineKind? lines last = some .prose := by
  have below := block.last_le bare
  obtain ⟨inner, _, _, _, _, _, rfl⟩ := block.closes
  have whole : leadingProse lines ++ lines.dropWhile _ = lines := List.takeWhile_append_dropWhile
  have found : lines[inner.count '\n']? = some (leadingProse lines)[inner.count '\n'] := by
    conv => lhs; rw [← whole]
    rw [List.getElem?_append_left below, List.getElem?_eq_getElem below]
  have kind := List.mem_takeWhile_imp (p := fun line => LineKind.ofLine line = .prose)
    (List.getElem_mem below)
  rw [lineKind?, found, Option.map_some, of_decide_eq_true kind]

/-- The runs of code after line `block` that no flag stands directly above, each with the line that
it starts on, in the order of the source. -/
structure FreeRuns (lines : List String) (block : Nat) (runs : List (Nat × String)) : Prop where
  ordered : runs.Pairwise fun left right => left.1 < right.1
  mem_iff : ∀ line code, (line, code) ∈ runs ↔ ∃ bar last, CodeRun lines block bar line last ∧
    ¬IsFlagged lines bar line ∧ code = lineText lines line last

/-- Rendering a document hands its free runs of code to the executor, each once and in the order of
the source, up to the first that fails, and an error of that one is reported with its line and its
text. No line of a listing is a line of a free run: neither the flag nor the code below it. -/
theorem render_hands_over_freeRuns {source : String} {document : Document}
    (parsed : Document.ofSource source = .ok document) :
    ∃ block runs, MetadataBlock (bareLines source) document.metadata block ∧
      FreeRuns (bareLines source) block runs ∧
      (∀ executor scope,
        (document.render executor scope).journal = callJournal (handOver executor scope runs) ∧
        HandedOver runs (handOver executor scope runs) (document.render executor scope).result) ∧
      ∀ bar first last, CodeRun (bareLines source) block bar first last →
        IsFlagged (bareLines source) bar first →
        ∀ otherBar otherFirst otherLast,
          CodeRun (bareLines source) block otherBar otherFirst otherLast →
          ¬IsFlagged (bareLines source) otherBar otherFirst →
          last < otherFirst ∨ otherLast < bar := by
  have bare : ∀ line ∈ bareLines source, Text.Bare line.toList :=
    fun line member => bare_of_mem_bareLines member
  obtain ⟨block, closes, segments⟩ := (ofLines_eq_ok_iff bare).mp parsed
  have prose := closes.lineKind?_last bare
  have cut : Segmentation ((bareLines source).drop block) (block + 1) document.segments := by
    have afresh := Segment.segmentation_ofLines ((sourceLines source).drop block) (1 + block)
    rwa [← segments, List.map_drop, Nat.add_comm 1 block] at afresh
  refine ⟨block, codeSegments document.segments, closes,
    ⟨sorted_codeSegments cut, fun line code => mem_codeSegments_iff cut prose⟩,
    fun executor scope => ?_, fun bar first last run flagged _ otherFirst otherLast other free => ?_⟩
  · obtain ⟨journal, outcome⟩ := renderSegments_handOver executor scope document.segments
    exact ⟨journal, outcome.map _⟩
  · rcases run.disjoint_of_flagged flagged other free with below | above
    · exact .inl below
    · right
      by_contra within
      have directly := flagged.2
      have width := other.first_le
      exact other.noBarInside bar (by omega) (by omega) run.isBar

/-- A page with a listing above its code. -/
theorem render_hands_over_freeRuns_below_listing :
    ∃ document, Document.ofSource "# \x7b\x7d\n#$\nx\n\ny\n# p\n\nz" = .ok document ∧
      ∃ block runs, MetadataBlock (bareLines "# \x7b\x7d\n#$\nx\n\ny\n# p\n\nz") document.metadata block ∧
        FreeRuns (bareLines "# \x7b\x7d\n#$\nx\n\ny\n# p\n\nz") block runs := by
  have parsed : (Document.ofSource "# \x7b\x7d\n#$\nx\n\ny\n# p\n\nz").toOption.isSome := by
    decide +kernel
  cases read : Document.ofSource "# \x7b\x7d\n#$\nx\n\ny\n# p\n\nz" with
  | error error =>
      rw [read] at parsed
      cases parsed
  | ok document =>
      obtain ⟨block, runs, closes, free, _⟩ := render_hands_over_freeRuns read
      exact ⟨document, rfl, block, runs, closes, free⟩

end LiteratePages
