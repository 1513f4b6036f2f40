import LiteratePages.Page.Document
import LiteratePages.Proofs.Json.Extent
import LiteratePages.Proofs.Page.Segmentation
import LiteratePages.Proofs.Text.Lines
import Mathlib.Data.List.TakeWhile

namespace LiteratePages

/-- The lines of a file as segments hold them. -/
def bareLines (source : String) : List String := (sourceLines source).map Segment.withoutEnd

def leadingProse (lines : List String) : List String :=
  lines.takeWhile fun line => LineKind.ofLine line = .prose

/-- What the prose at the start of a source says. -/
def leadingText (lines : List String) : List Char :=
  (joinLines ((leadingProse lines).map Segment.unmarked)).toList

/-- The lines start with prose, the prose starts with an object whose closing brace stands on line
`last`, and only blanks follow the brace on that line. -/
structure MetadataBlock (lines : List String) (metadata : Metadata) (last : Nat) : Prop where
  prose : leadingProse lines ≠ []
  closes : ∃ inner stop rest, leadingText lines = inner ++ '\x7d' :: rest ∧
    Json.readObject (leadingText lines) = .ok (metadata, stop, rest) ∧
    Text.allBlank (rest.takeWhile (· ≠ '\n')) = true ∧ last = inner.count '\n' + 1

variable {lines : List String} {first : Segment} {rest : List Segment} {metadata : Metadata}
  {last : Nat}

theorem unmarked_subset (line : String) : (Segment.unmarked line).toList ⊆ line.toList := by
  unfold Segment.unmarked
  split
  · rw [String.toList_ofList]
    exact List.drop_subset _ _
  · exact List.Subset.refl _

theorem withoutEnd_subset (line : String) : (Segment.withoutEnd line).toList ⊆ line.toList := by
  rw [Segment.withoutEnd, String.toList_ofList]
  exact List.Subset.trans (Text.dropFinal_subset _ _) (Text.dropFinal_subset _ _)

theorem bare_of_mem_bareLines {source line : String} (member : line ∈ bareLines source) :
    Text.Bare line.toList := by
  obtain ⟨ended, endedMember, rfl⟩ := List.mem_map.mp member
  obtain ⟨text, textMember, rfl⟩ := List.mem_map.mp endedMember
  refine Text.Bare.of_subset ?_ (withoutEnd_subset _)
  rw [String.toList_ofList]
  exact Text.bare_of_mem_sourceLines textMember

def proseTexts (lines : List String) : List (List Char) :=
  lines.map fun line => (Segment.unmarked line).toList

theorem toList_joinLines_unmarked (lines : List String) :
    (joinLines (lines.map Segment.unmarked)).toList = Text.joinLines (proseTexts lines) := by
  simp [joinLines, Text.joinLines, proseTexts, Function.comp_def]

theorem leadingText_eq (lines : List String) :
    leadingText lines = Text.joinLines (proseTexts (leadingProse lines)) :=
  toList_joinLines_unmarked _

theorem bare_proseTexts (bare : ∀ line ∈ lines, Text.Bare line.toList) :
    ∀ text ∈ proseTexts lines, Text.Bare text := by
  intro text member
  obtain ⟨line, inside, rfl⟩ := List.mem_map.mp member
  exact (bare line inside).of_subset (unmarked_subset line)

theorem leadingProse_bare (bare : ∀ line ∈ lines, Text.Bare line.toList) :
    ∀ line ∈ leadingProse lines, Text.Bare line.toList :=
  fun line member => bare line (List.takeWhile_subset _ member)

theorem MetadataBlock.last_le (block : MetadataBlock lines metadata last)
    (bare : ∀ line ∈ lines, Text.Bare line.toList) : last ≤ (leadingProse lines).length := by
  obtain ⟨inner, stop, rest, text, _, _, rfl⟩ := block.closes
  have count := Text.count_joinLines (bare_proseTexts (leadingProse_bare bare))
    (by simpa [proseTexts] using block.prose)
  rw [← leadingText_eq, text, List.count_append] at count
  simp only [proseTexts, List.length_map] at count
  omega

theorem leadingProse_take (below : last ≤ (leadingProse lines).length) :
    (leadingProse lines).take last = lines.take last := by
  have whole : leadingProse lines ++ lines.dropWhile _ = lines := List.takeWhile_append_dropWhile
  conv => rhs; rw [← whole]
  exact (List.take_append_of_le_length below).symm

/-- Lines that agree up to the end of an object agree on it. -/
theorem MetadataBlock.congr {other : List String} (block : MetadataBlock lines metadata last)
    (bare : ∀ line ∈ lines, Text.Bare line.toList) (same : other.take last = lines.take last) :
    MetadataBlock other metadata last := by
  have below := block.last_le bare
  obtain ⟨inner, stop, rest, text, read, blank, closes⟩ := block.closes
  have start : (leadingProse other).take last = (leadingProse lines).take last := by
    have allProse : ∀ line ∈ (leadingProse lines).take last,
        decide (LineKind.ofLine line = .prose) = true :=
      fun line member => List.mem_takeWhile_imp (p := fun line => LineKind.ofLine line = .prose)
        (List.mem_of_mem_take member)
    have width : ((leadingProse lines).take last).length = last := by
      rw [List.length_take]
      omega
    have split : leadingProse other =
        (leadingProse lines).take last ++ leadingProse (other.drop last) := by
      have whole := List.take_append_drop last other
      rw [same, ← leadingProse_take below] at whole
      rw [leadingProse, ← whole, List.takeWhile_append_of_pos allProse, whole]
      rfl
    rw [split]
    exact List.take_left' width
  have agreed : (proseTexts (leadingProse other)).take last =
      (proseTexts (leadingProse lines)).take last := by
    simp only [proseTexts, ← List.map_take, start]
  have closed : Text.joinLines (proseTexts (leadingProse lines)) = (inner ++ ['\x7d']) ++ rest := by
    rw [← leadingText_eq, text, List.append_assoc, List.singleton_append]
  -- Up to the end of line `last` both texts are made of the same lines, and the brace is among them.
  have reached := Text.joinLines_take (bare_proseTexts (leadingProse_bare bare)) closed
  obtain ⟨more, whole, bounded⟩ :=
    Text.joinLines_eq_take_append (proseTexts (leadingProse other)) (inner.count '\n')
  have count : (inner ++ ['\x7d']).count '\n' = inner.count '\n' := by simp
  rw [← closes, agreed, closes, ← count, reached, ← leadingText_eq, List.append_assoc,
    List.append_assoc, List.singleton_append] at whole
  obtain ⟨cutInner, cut, again⟩ := Json.readObject_extent read
  have sameInner : inner = cutInner := List.append_cancel_right (text.symm.trans cut)
  subst sameInner
  refine ⟨?_, inner, stop, rest.takeWhile (· ≠ '\n') ++ more, whole, ?_, ?_, closes⟩
  · intro empty
    rw [empty, List.take_nil] at start
    have width := congrArg List.length start
    rw [List.length_take, List.length_nil] at width
    omega
  · rw [whole]
    exact again _
  · have shown : ∀ c ∈ rest.takeWhile (· ≠ '\n'), decide (c ≠ '\n') = true :=
      fun c member => List.mem_takeWhile_imp (p := (· ≠ '\n')) member
    rw [List.takeWhile_append_of_pos shown, bounded, List.append_nil]
    exact blank

theorem readMetadata_eq_ok_iff {text : List Char} {before : Nat} :
    readMetadata text = .ok (metadata, before) ↔
      ∃ inner stop rest, text = inner ++ '\x7d' :: rest ∧
        Json.readObject text = .ok (metadata, stop, rest) ∧
        Text.allBlank (rest.takeWhile (· ≠ '\n')) = true ∧ before = inner.count '\n' := by
  constructor
  · intro accepted
    unfold readMetadata at accepted
    cases read : Json.readObject text with
    | error error =>
        rw [read] at accepted
        cases accepted
    | ok answer =>
        obtain ⟨found, stop, rest⟩ := answer
        obtain ⟨inner, rfl, _⟩ := Json.readObject_extent read
        rw [read] at accepted
        dsimp only at accepted
        split at accepted
        · rename_i empty
          have blank := (Text.allBlank_iff_trim_eq_nil _).mpr (List.isEmpty_iff.mp empty)
          cases accepted
          refine ⟨inner, stop, rest, rfl, rfl, blank, ?_⟩
          rw [List.count_append, List.count_cons_of_ne (by decide), Nat.add_sub_cancel]
        · cases accepted
  · rintro ⟨inner, stop, rest, rfl, read, blank, rfl⟩
    have empty := List.isEmpty_iff.mpr ((Text.allBlank_iff_trim_eq_nil _).mp blank)
    simp only [readMetadata, read, empty, if_true]
    rw [List.count_append, List.count_cons_of_ne (by decide), Nat.add_sub_cancel]

/-- The prose that lines start with is their first segment, if that is one of prose. -/
theorem Segmentation.leadingProse_eq {number : Nat}
    (cut : Segmentation lines number (first :: rest)) (prose : first.kind = .prose) :
    leadingProse lines = first.lines := by
  obtain ⟨covers, nonempty, _, shaped, maximal⟩ := cut
  have shape := shaped first (by simp)
  rw [prose] at shape
  have all : ∀ line ∈ first.lines, decide (LineKind.ofLine line = .prose) = true :=
    fun line member => decide_eq_true (shape.2 _ (List.mem_map_of_mem member))
  rw [List.flatMap_cons] at covers
  rw [← covers, leadingProse, List.takeWhile_append_of_pos all]
  cases rest with
  | nil => simp
  | cons next rest =>
      have apart := maximal.rel
      rw [prose] at apart
      cases inside : next.lines with
      | nil => exact absurd inside (nonempty next (by simp))
      | cons line more =>
          have nextShape := shaped next (by simp)
          rw [Segment.kinds, inside] at nextShape
          have other := nextShape.combine?_first_eq_none apart
          have different : LineKind.ofLine line ≠ .prose := by
            intro same
            rw [same] at other
            cases other
          simp [inside, different]

theorem Segmentation.leadingProse_eq_nil {number : Nat}
    (cut : Segmentation lines number (first :: rest)) (other : first.kind ≠ .prose) :
    leadingProse lines = [] := by
  obtain ⟨covers, nonempty, _, shaped, _⟩ := cut
  have shape := shaped first (by simp)
  cases inside : first.lines with
  | nil => exact absurd inside (nonempty first (by simp))
  | cons line more =>
      rw [Segment.kinds, inside] at shape
      have different : LineKind.ofLine line ≠ .prose := by
        intro same
        rw [List.map_cons, same] at shape
        cases kind : first.kind <;> simp_all [SegmentKind.Shape]
      rw [List.flatMap_cons, inside, List.cons_append] at covers
      rw [← covers, leadingProse, List.takeWhile_cons_of_neg (by simpa using different)]

/-- What is left of a segment of prose without its first lines. -/
def Segment.without (count : Nat) (segment : Segment) : List Segment :=
  let remaining := segment.lines.drop count
  if remaining.isEmpty then [] else [⟨.prose, remaining, segment.start + count⟩]

/-- The lines after the first ones of a segment of prose are cut as they were before. -/
theorem Segmentation.without {number count : Nat} (cut : Segmentation lines number (first :: rest))
    (prose : first.kind = .prose) (below : count ≤ first.lines.length) :
    Segmentation (lines.drop count) (number + count) (first.without count ++ rest) := by
  have others := cut.tail
  obtain ⟨covers, nonempty, ⟨start, _⟩, shaped, maximal⟩ := cut
  have next := Segment.stop_succ (nonempty first (by simp))
  have shape := shaped first (by simp)
  rw [prose] at shape
  rw [List.flatMap_cons] at covers
  rw [← covers, List.drop_append_of_le_length below, ← start]
  unfold Segment.without
  dsimp only
  split
  · rename_i empty
    have empty := List.isEmpty_iff.mp empty
    have whole := List.drop_eq_nil_iff.mp empty
    rw [empty, List.nil_append, List.nil_append, show first.start + count = first.stop + 1 by omega]
    exact others
  · rename_i some
    have some : first.lines.drop count ≠ [] := fun empty => some (List.isEmpty_iff.mpr empty)
    let remaining : Segment := ⟨.prose, first.lines.drop count, first.start + count⟩
    have remainingShape : remaining.kind.Shape remaining.kinds := by
      refine ⟨by simpa [Segment.kinds, remaining] using some, fun kind member => ?_⟩
      obtain ⟨line, inside, rfl⟩ := List.mem_map.mp member
      exact shape.2 _ (List.mem_map_of_mem (List.mem_of_mem_drop inside))
    have stop : remaining.stop + 1 = first.stop + 1 := by
      have width : remaining.stop + 1 = remaining.start + remaining.lines.length :=
        Segment.stop_succ some
      simp only [remaining, List.length_drop] at width ⊢
      omega
    have apart : ∀ next ∈ rest.head?, remaining.kind.combine? next.kind = none := by
      have apart := (List.isChain_cons.mp maximal).1
      rwa [prose] at apart
    rw [← stop] at others
    exact Segmentation.cons remainingShape apart others

theorem Segmentation.content_eq {number : Nat}
    (cut : Segmentation lines number (first :: rest)) (prose : first.kind = .prose) :
    first.content.toList = leadingText lines := by
  simp only [Segment.content, prose, leadingText, cut.leadingProse_eq prose]

theorem Segmentation.prose_of_block {number : Nat}
    (cut : Segmentation lines number (first :: rest)) (block : MetadataBlock lines metadata last) :
    first.kind = .prose := by
  by_contra other
  exact block.prose (cut.leadingProse_eq_nil other)

/-- Where a metadata block ends decides whether there are lines enough for it. -/
theorem splitMetadata_of_block {number : Nat} (cut : Segmentation lines number (first :: rest))
    (block : MetadataBlock lines metadata last) :
    splitMetadata first = if (leadingProse lines).length < last then .error .misplacedMetadata
      else .ok (metadata, first.without last) := by
  have kind := cut.prose_of_block block
  obtain ⟨inner, stop, rest, text, object, blank, rfl⟩ := block.closes
  have read : readMetadata (leadingText lines) = .ok (metadata, inner.count '\n') :=
    readMetadata_eq_ok_iff.mpr ⟨inner, stop, rest, text, object, blank, rfl⟩
  rw [splitMetadata, if_neg (not_not_intro kind), cut.content_eq kind, read,
    cut.leadingProse_eq kind]
  rfl

/-- Lines that start with no metadata block are refused for what they do start with. -/
theorem exists_block_or_error {number : Nat} (cut : Segmentation lines number (first :: rest)) :
    (∃ metadata last, MetadataBlock lines metadata last) ∨
      (first.kind ≠ .prose ∧ splitMetadata first = .error (.missingMetadata first.kind first.start) ∨
        first.kind = .prose ∧ ∃ cause,
          splitMetadata first = .error (.invalidMetadata first.start cause)) := by
  by_cases kind : first.kind = .prose
  · have content := cut.content_eq kind
    cases read : readMetadata (leadingText lines) with
    | error cause =>
        refine .inr (.inr ⟨kind, cause, ?_⟩)
        rw [splitMetadata, if_neg (not_not_intro kind), content, read]
    | ok answer =>
        obtain ⟨metadata, before⟩ := answer
        obtain ⟨inner, stop, after, text, object, blank, rfl⟩ := readMetadata_eq_ok_iff.mp read
        have some : leadingProse lines ≠ [] :=
          cut.leadingProse_eq kind ▸ cut.nonempty first (by simp)
        exact .inl ⟨metadata, _, some, inner, stop, after, text, object, blank, rfl⟩
  · refine .inr (.inl ⟨kind, ?_⟩)
    rw [splitMetadata, if_pos kind]

/-- The metadata is taken off the first segment exactly when the lines start with a metadata block
that ends among the lines of the segment. -/
theorem splitMetadata_eq_ok_iff {number : Nat} {prose : List Segment}
    (cut : Segmentation lines number (first :: rest)) :
    splitMetadata first = .ok (metadata, prose) ↔
      ∃ last, MetadataBlock lines metadata last ∧ last ≤ (leadingProse lines).length ∧
        prose = first.without last := by
  constructor
  · intro accepted
    rcases exists_block_or_error cut with ⟨found, last, block⟩ | ⟨_, failed⟩ | ⟨_, cause, failed⟩
    · rw [splitMetadata_of_block cut block] at accepted
      split at accepted
      · cases accepted
      · rename_i enough
        cases accepted
        exact ⟨last, block, Nat.not_lt.mp enough, rfl⟩
    · cases failed.symm.trans accepted
    · cases failed.symm.trans accepted
  · rintro ⟨last, block, enough, rfl⟩
    rw [splitMetadata_of_block cut block, if_neg (Nat.not_lt.mpr enough)]

/-- Lines are a document exactly when they start with a metadata block for which the prose they
start with has lines enough, and the segments of the document are those of the lines after as many
lines. -/
theorem ofLines_eq_ok_iff_of_length {raw : List String} {document : Document} :
    Document.ofLines raw = .ok document ↔
      ∃ last, MetadataBlock (raw.map Segment.withoutEnd) document.metadata last ∧
        last ≤ (leadingProse (raw.map Segment.withoutEnd)).length ∧
        document.segments = Segment.ofLines (raw.drop last) (1 + last) := by
  have cut : Segmentation (raw.map Segment.withoutEnd) 1 (Segment.segments raw) :=
    Segment.segmentation_ofLines raw 1
  obtain ⟨metadata, segments⟩ := document
  unfold Document.ofLines
  cases found : Segment.segments raw with
  | nil =>
      rw [found] at cut
      have empty : raw.map Segment.withoutEnd = [] := cut.covers.symm
      constructor
      · intro accepted
        cases accepted
      · rintro ⟨last, block, _⟩
        rw [empty] at block
        exact absurd rfl block.prose
  | cons first rest =>
      rw [found] at cut
      have segmentsAfter : ∀ last, MetadataBlock (raw.map Segment.withoutEnd) metadata last →
          last ≤ (leadingProse (raw.map Segment.withoutEnd)).length →
          Segment.ofLines (raw.drop last) (1 + last) = first.without last ++ rest := by
        intro last block below
        have kind := cut.prose_of_block block
        rw [cut.leadingProse_eq kind] at below
        apply Segment.ofLines_eq_of_segmentation
        rw [List.map_drop]
        exact cut.without kind below
      constructor
      · intro accepted
        cases split : splitMetadata first with
        | error error => simp [split] at accepted
        | ok answer =>
            obtain ⟨found, prose⟩ := answer
            simp only [split] at accepted
            cases accepted
            obtain ⟨last, block, below, rfl⟩ := (splitMetadata_eq_ok_iff cut).mp split
            exact ⟨last, block, below, (segmentsAfter last block below).symm⟩
      · rintro ⟨last, block, below, same⟩
        have split := (splitMetadata_eq_ok_iff cut).mpr ⟨last, block, below, rfl⟩
        dsimp only at same
        rw [same, segmentsAfter last block below]
        simp only [split]

/-- Lines without line feeds in them are always enough for the block they start with. -/
theorem ofLines_eq_ok_iff {raw : List String} {document : Document}
    (bare : ∀ line ∈ raw.map Segment.withoutEnd, Text.Bare line.toList) :
    Document.ofLines raw = .ok document ↔
      ∃ last, MetadataBlock (raw.map Segment.withoutEnd) document.metadata last ∧
        document.segments = Segment.ofLines (raw.drop last) (1 + last) := by
  rw [ofLines_eq_ok_iff_of_length]
  constructor
  · rintro ⟨last, block, _, segments⟩
    exact ⟨last, block, segments⟩
  · rintro ⟨last, block, segments⟩
    exact ⟨last, block, block.last_le bare, segments⟩

theorem splitMetadata_eq_error {number : Nat} {error : PageError}
    (cut : Segmentation lines number (first :: rest))
    (bare : ∀ line ∈ lines, Text.Bare line.toList) (failed : splitMetadata first = .error error) :
    first.kind ≠ .prose ∧ error = .missingMetadata first.kind first.start ∨
      first.kind = .prose ∧ ∃ cause, error = .invalidMetadata first.start cause := by
  rcases exists_block_or_error cut with ⟨metadata, last, block⟩ | ⟨kind, missing⟩ |
    ⟨kind, cause, invalid⟩
  · rw [splitMetadata_of_block cut block, if_neg (Nat.not_lt.mpr (block.last_le bare))] at failed
    cases failed
  · cases missing.symm.trans failed
    exact .inl ⟨kind, rfl⟩
  · cases invalid.symm.trans failed
    exact .inr ⟨kind, cause, rfl⟩

/-- A file is a document exactly when it starts with a metadata block: prose that starts with an
object, after whose closing brace only blanks follow on the line. Its segments are then those of
the lines after that line, with their numbers in the file, and none when there are no such lines.
Whatever lines come after the block, the metadata is the same. A file is no document because it has
no lines, because it does not start with prose, or because the prose does not start with a block. -/
theorem ofSource_eq_ok_iff (source : String) :
    (∀ document, Document.ofSource source = .ok document ↔
      ∃ last, MetadataBlock (bareLines source) document.metadata last ∧
        document.segments =
          (Segment.segments ((sourceLines source).drop last)).map (Segment.renumber last)) ∧
    (∀ metadata last, MetadataBlock (bareLines source) metadata last →
      last ≤ (bareLines source).length ∧
      ∀ other, (bareLines other).take last = (bareLines source).take last →
        ∃ document, Document.ofSource other = .ok document ∧ document.metadata = metadata) ∧
    ∀ error, Document.ofSource source = .error error →
      bareLines source = [] ∧ error = .emptySource ∨
      ∃ first rest, Segment.segments (sourceLines source) = first :: rest ∧
        (first.kind ≠ .prose ∧ error = .missingMetadata first.kind first.start ∨
          first.kind = .prose ∧ ∃ cause, error = .invalidMetadata 1 cause) := by
  have bare : ∀ source, ∀ line ∈ bareLines source, Text.Bare line.toList :=
    fun source line member => bare_of_mem_bareLines member
  refine ⟨fun document => ?_, fun metadata last block => ⟨?_, fun other same => ?_⟩,
    fun error failed => ?_⟩
  · simp only [Segment.segments, ← Segment.ofLines_add]
    exact ofLines_eq_ok_iff (bare source)
  · exact (block.last_le (bare source)).trans (List.takeWhile_sublist _).length_le
  · have again := block.congr (bare source) same
    exact ⟨⟨metadata, _⟩, (ofLines_eq_ok_iff (bare other)).mpr ⟨last, again, rfl⟩, rfl⟩
  · have cut : Segmentation (bareLines source) 1 (Segment.segments (sourceLines source)) :=
      Segment.segmentation_ofLines _ 1
    rw [Document.ofSource, Document.ofLines] at failed
    cases found : Segment.segments (sourceLines source) with
    | nil =>
        rw [found] at cut failed
        cases failed
        exact .inl ⟨cut.covers.symm, rfl⟩
    | cons first rest =>
        rw [found] at cut failed
        cases split : splitMetadata first with
        | ok answer =>
            simp only [split] at failed
            cases failed
        | error cause =>
            simp only [split] at failed
            cases failed
            have causes := splitMetadata_eq_error cut (bare source) split
            refine .inr ⟨first, rest, rfl, ?_⟩
            rw [cut.tiles.1] at causes ⊢
            exact causes

/-- An object over two lines, with prose below it that may be any other. -/
theorem ofSource_eq_ok_iff_two_line_object :
    MetadataBlock (bareLines "# \x7b\n# \x7d\n# p\nx") [] 2 ∧
      2 ≤ (bareLines "# \x7b\n# \x7d\n# p\nx").length ∧
      ∃ document, Document.ofSource "# \x7b\n# \x7d\ny" = .ok document ∧ document.metadata = [] := by
  have text : leadingText (bareLines "# \x7b\n# \x7d\n# p\nx") =
      "\x7b\n".toList ++ '\x7d' :: "\np".toList := by decide +kernel
  have block : MetadataBlock (bareLines "# \x7b\n# \x7d\n# p\nx") [] 2 := by
    refine ⟨by decide +kernel, "\x7b\n".toList, 3, "\np".toList, text, ?_, by decide, by decide⟩
    rw [text]
    rfl
  obtain ⟨below, others⟩ := (ofSource_eq_ok_iff "# \x7b\n# \x7d\n# p\nx").2.1 [] 2 block
  exact ⟨block, below, others "# \x7b\n# \x7d\ny" (by decide +kernel)⟩

end LiteratePages
