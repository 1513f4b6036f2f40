import LiteratePages.Proofs.Page.Metadata

/-!
How many lines a metadata block takes off a source, whatever the lines hold. The line feeds before
the closing brace are counted and one line more is taken than there are, which is right for lines
that hold no line feed themselves. `ofLines_in_range_iff` says what happens with any others: each
line feed inside of a line before the brace costs one line behind the object, and where there are
not enough of them there is no document.
-/
namespace LiteratePages

theorem splitMetadata_eq_misplaced_iff {lines : List String} {first : Segment}
    {rest : List Segment} {number : Nat} (cut : Segmentation lines number (first :: rest)) :
    splitMetadata first = .error .misplacedMetadata ↔
      ∃ metadata last, MetadataBlock lines metadata last ∧ (leadingProse lines).length < last := by
  constructor
  · intro failed
    rcases exists_block_or_error cut with ⟨metadata, last, block⟩ | ⟨_, missing⟩ | ⟨_, _, invalid⟩
    · refine ⟨metadata, last, block, ?_⟩
      rw [splitMetadata_of_block cut block] at failed
      by_contra enough
      rw [if_neg enough] at failed
      cases failed
    · cases missing.symm.trans failed
    · cases invalid.symm.trans failed
  · rintro ⟨metadata, last, block, short⟩
    rw [splitMetadata_of_block cut block, if_pos short]

theorem ofLines_eq_misplaced_iff {raw : List String} :
    Document.ofLines raw = .error .misplacedMetadata ↔
      ∃ metadata last, MetadataBlock (raw.map Segment.withoutEnd) metadata last ∧
        (leadingProse (raw.map Segment.withoutEnd)).length < last := by
  have cut : Segmentation (raw.map Segment.withoutEnd) 1 (Segment.segments raw) :=
    Segment.segmentation_ofLines raw 1
  unfold Document.ofLines
  cases found : Segment.segments raw with
  | nil =>
      rw [found] at cut
      have empty : raw.map Segment.withoutEnd = [] := cut.covers.symm
      constructor
      · intro failed
        cases failed
      · rintro ⟨metadata, last, block, _⟩
        rw [empty] at block
        exact absurd rfl block.prose
  | cons first rest =>
      rw [found] at cut
      rw [← splitMetadata_eq_misplaced_iff cut]
      dsimp only
      cases split : splitMetadata first with
      | error error => simp
      | ok answer => simp

/-- The line on which an object closes, as what it says in front of the brace and behind it, with
the lines of prose above and below. -/
structure ClosingLine where
  above : List String
  line : String
  front : List Char
  back : List Char
  below : List String

namespace ClosingLine

/-- How many line feeds in front of the brace stand inside of lines. -/
def feeds (closing : ClosingLine) : Nat :=
  ((proseTexts closing.above).flatten ++ closing.front).count '\n'

/-- How many lines are taken off for the object. -/
def used (closing : ClosingLine) : Nat := closing.above.length + 1 + closing.feeds

/-- The prose that the lines start with starts with an object that closes on this line, and only
blanks follow the brace up to the next line feed. -/
structure Ends (closing : ClosingLine) (lines : List String) (metadata : Metadata) : Prop where
  prose : leadingProse lines = closing.above ++ closing.line :: closing.below
  brace : (Segment.unmarked closing.line).toList = closing.front ++ '\x7d' :: closing.back
  object : ∃ stop, Json.readObject (leadingText lines) =
    .ok (metadata, stop, Text.joinLines (closing.back :: proseTexts closing.below))
  blank : Text.allBlank (closing.back.takeWhile (· ≠ '\n')) = true

variable {closing : ClosingLine} {lines : List String} {metadata : Metadata} {last : Nat}

/-- What the prose says up to the brace. -/
def reached (closing : ClosingLine) : List Char :=
  Text.joinLines (proseTexts closing.above ++ [closing.front])

theorem count_reached (closing : ClosingLine) : closing.reached.count '\n' + 1 = closing.used := by
  have count : (Text.joinLines (proseTexts closing.above ++ [closing.front])).count '\n' + 1 = _ :=
    Text.count_joinLines_eq (by simp)
  rw [reached, count, used, feeds, proseTexts, List.length_append, List.length_map,
    List.length_singleton, List.flatten_append, List.flatten_singleton]

theorem Ends.leadingText_eq (ends : closing.Ends lines metadata) :
    leadingText lines = closing.reached ++
      '\x7d' :: Text.joinLines (closing.back :: proseTexts closing.below) := by
  have texts : proseTexts (leadingProse lines) = proseTexts closing.above ++
      (closing.front ++ '\x7d' :: closing.back) :: proseTexts closing.below := by
    rw [ends.prose, proseTexts, List.map_append, List.map_cons, ends.brace]
    rfl
  have brace : Text.joinLines (('\x7d' :: closing.back) :: proseTexts closing.below) =
      '\x7d' :: Text.joinLines (closing.back :: proseTexts closing.below) := by
    cases proseTexts closing.below <;> simp [Text.joinLines, List.intercalate]
  rw [LiteratePages.leadingText_eq, texts, Text.joinLines_append, brace]
  rfl

theorem Ends.block (ends : closing.Ends lines metadata) :
    MetadataBlock lines metadata closing.used := by
  obtain ⟨stop, object⟩ := ends.object
  refine ⟨by simp [ends.prose], closing.reached, stop, _, ends.leadingText_eq, object, ?_,
    (count_reached closing).symm⟩
  rw [Text.takeWhile_joinLines_cons]
  exact ends.blank

/-- Every metadata block ends on some line. -/
theorem exists_of_block (block : MetadataBlock lines metadata last) :
    ∃ closing : ClosingLine, closing.Ends lines metadata ∧ closing.used = last := by
  obtain ⟨inner, stop, rest, text, object, blank, rfl⟩ := block.closes
  have joined : Text.joinLines (proseTexts (leadingProse lines)) = inner ++ '\x7d' :: rest := by
    rw [← LiteratePages.leadingText_eq, text]
  obtain ⟨above, front, back, below, texts, rfl, rfl⟩ :=
    Text.exists_line_of_joinLines (by decide) joined
  obtain ⟨aboveLines, others, prose, rfl, others_eq⟩ := List.map_eq_append_iff.mp texts
  obtain ⟨line, belowLines, rfl, brace, rfl⟩ := List.map_eq_cons_iff.mp others_eq
  let closing : ClosingLine := ⟨aboveLines, line, front, back, belowLines⟩
  refine ⟨closing, ⟨prose, brace, ⟨stop, object⟩, ?_⟩, (count_reached closing).symm⟩
  rwa [Text.takeWhile_joinLines_cons] at blank

/-- A line feed takes a line below with it, so there are lines enough when there are as many. -/
theorem Ends.used_le_iff (ends : closing.Ends lines metadata) :
    closing.used ≤ (leadingProse lines).length ↔ closing.feeds ≤ closing.below.length := by
  rw [ends.prose, used, List.length_append, List.length_cons]
  omega

theorem Ends.lines_eq (ends : closing.Ends lines metadata)
    (enough : closing.feeds ≤ closing.below.length) :
    lines = closing.above ++ closing.line ::
      (closing.below.take closing.feeds ++ lines.drop closing.used) := by
  have taken := leadingProse_take (ends.used_le_iff.mpr enough)
  have start : (leadingProse lines).take closing.used =
      closing.above ++ closing.line :: closing.below.take closing.feeds := by
    rw [ends.prose, used, Nat.add_assoc, List.take_length_add_append, Nat.add_comm 1,
      List.take_succ_cons]
  conv => lhs; rw [← List.take_append_drop closing.used lines, ← taken, start]
  rw [List.append_assoc, List.cons_append]

theorem Ends.feeds_eq_zero (ends : closing.Ends lines metadata)
    (bare : ∀ line ∈ leadingProse lines, Text.Bare line.toList) : closing.feeds = 0 := by
  have texts := bare_proseTexts bare
  rw [ends.prose] at texts bare
  refine List.count_eq_zero.mpr fun inside => ?_
  rcases List.mem_append.mp inside with inside | inside
  · obtain ⟨text, member, inside⟩ := List.mem_flatten.mp inside
    obtain ⟨line, among, rfl⟩ := List.mem_map.mp member
    exact texts _ (List.mem_map_of_mem (List.mem_append_left _ among)) inside
  · refine texts _ (List.mem_map_of_mem (List.mem_append_right _ List.mem_cons_self)) ?_
    rw [ends.brace]
    exact List.mem_append_left _ inside

theorem Ends.allBlank_back (ends : closing.Ends lines metadata)
    (bare : ∀ line ∈ leadingProse lines, Text.Bare line.toList) :
    Text.allBlank closing.back = true := by
  have texts := bare_proseTexts bare
  have closingBare : Text.Bare closing.back := by
    rw [ends.prose] at texts
    refine (texts _ (List.mem_map_of_mem (List.mem_append_right _ List.mem_cons_self))).of_subset ?_
    rw [ends.brace]
    exact fun c inside => List.mem_append_right _ (List.mem_cons_of_mem _ inside)
  have blank := ends.blank
  have whole := closingBare.takeWhile_append []
  rw [List.append_nil, List.takeWhile_nil, List.append_nil] at whole
  rwa [whole] at blank

/-- The document that starts below a line on which its metadata closes: it lacks as many lines below
that line as there are line feeds inside of lines in front of the brace. -/
structure Leaves (closing : ClosingLine) (raw : List String) (document : Document) : Prop where
  ends : closing.Ends (raw.map Segment.withoutEnd) document.metadata
  enough : closing.feeds ≤ closing.below.length
  segments : document.segments =
    (Segment.segments (raw.drop closing.used)).map (Segment.renumber closing.used)
  lines : raw.map Segment.withoutEnd = closing.above ++ closing.line ::
    (closing.below.take closing.feeds ++ document.segments.flatMap (·.lines))

theorem exists_leaves_iff {raw : List String} {document : Document} :
    Document.ofLines raw = .ok document ↔ ∃ closing : ClosingLine, closing.Leaves raw document := by
  rw [ofLines_eq_ok_iff_of_length]
  constructor
  · rintro ⟨last, block, below, segments⟩
    obtain ⟨closing, ends, rfl⟩ := exists_of_block block
    have enough := ends.used_le_iff.mp below
    have covers := (Segment.segmentation_ofLines (raw.drop closing.used) (1 + closing.used)).covers
    rw [← segments, List.map_drop] at covers
    refine ⟨closing, ends, enough, ?_, ?_⟩
    · rw [segments, Segment.ofLines_add]
      rfl
    · rw [covers]
      exact ends.lines_eq enough
  · rintro ⟨closing, ends, enough, segments, _⟩
    refine ⟨closing.used, ends.block, ends.used_le_iff.mpr enough, ?_⟩
    rw [segments, Segment.ofLines_add]
    rfl

theorem exists_short_iff {raw : List String} :
    Document.ofLines raw = .error .misplacedMetadata ↔
      ∃ (closing : ClosingLine) (metadata : Metadata),
        closing.Ends (raw.map Segment.withoutEnd) metadata ∧
          closing.below.length < closing.feeds := by
  rw [ofLines_eq_misplaced_iff]
  constructor
  · rintro ⟨metadata, last, block, short⟩
    obtain ⟨closing, ends, rfl⟩ := exists_of_block block
    exact ⟨closing, metadata, ends, Nat.not_le.mp fun enough =>
      Nat.not_le.mpr short (ends.used_le_iff.mpr enough)⟩
  · rintro ⟨closing, metadata, ends, short⟩
    exact ⟨metadata, closing.used, ends.block, Nat.not_le.mp fun enough =>
      Nat.not_le.mpr short (ends.used_le_iff.mp enough)⟩

end ClosingLine

/-- A metadata block is out of range exactly when more line feeds stand inside of the lines up to
its closing brace than there are lines of prose below it. Otherwise there is a document, which lacks
one line below the block for each such line feed. A block in prose whose lines hold no line feeds is
never out of range and nothing behind it is lost: only blanks stand behind the brace on its line,
and all lines below are in the document. -/
theorem ofLines_in_range_iff (raw : List String) :
    (Document.ofLines raw = .error .misplacedMetadata ↔
      ∃ (closing : ClosingLine) (metadata : Metadata),
        closing.Ends (raw.map Segment.withoutEnd) metadata ∧
          closing.below.length < closing.feeds) ∧
    (∀ document, Document.ofLines raw = .ok document ↔
      ∃ closing : ClosingLine, closing.Leaves raw document) ∧
    ((∀ line ∈ leadingProse (raw.map Segment.withoutEnd), Text.Bare line.toList) →
      Document.ofLines raw ≠ .error .misplacedMetadata ∧
      ∀ document, Document.ofLines raw = .ok document →
        ∃ closing : ClosingLine, closing.Leaves raw document ∧
          Text.allBlank closing.back = true ∧
          raw.map Segment.withoutEnd =
            closing.above ++ closing.line :: document.segments.flatMap (·.lines)) := by
  refine ⟨ClosingLine.exists_short_iff, fun _ => ClosingLine.exists_leaves_iff,
    fun bare => ⟨fun failed => ?_, fun document parsed => ?_⟩⟩
  · obtain ⟨closing, metadata, ends, short⟩ := ClosingLine.exists_short_iff.mp failed
    rw [ends.feeds_eq_zero bare] at short
    exact absurd short (Nat.not_lt_zero _)
  · obtain ⟨closing, leaves⟩ := ClosingLine.exists_leaves_iff.mp parsed
    have kept := leaves.lines
    rw [leaves.ends.feeds_eq_zero bare, List.take_zero, List.nil_append] at kept
    exact ⟨closing, leaves, leaves.ends.allBlank_back bare, kept⟩

/-- The line feed of the code below the block does no harm. -/
theorem ofLines_in_range_iff_feed_in_code :
    (∀ line ∈ leadingProse (["# \x7b", "# \x7d ", "# p", "x\ny"].map Segment.withoutEnd),
      Text.Bare line.toList) ∧
    Document.ofLines ["# \x7b", "# \x7d ", "# p", "x\ny"] =
      .ok ⟨[], [⟨.prose, ["# p"], 3⟩, ⟨.code, ["x\ny"], 4⟩]⟩ ∧
    ∃ closing : ClosingLine, Text.allBlank closing.back = true ∧
      ["# \x7b", "# \x7d ", "# p", "x\ny"].map Segment.withoutEnd =
        closing.above ++ closing.line :: ["# p", "x\ny"] := by
  have bare : ∀ line ∈ leadingProse (["# \x7b", "# \x7d ", "# p", "x\ny"].map Segment.withoutEnd),
      Text.Bare line.toList := by
    unfold Text.Bare
    decide +kernel
  have parsed : Document.ofLines ["# \x7b", "# \x7d ", "# p", "x\ny"] =
      .ok ⟨[], [⟨.prose, ["# p"], 3⟩, ⟨.code, ["x\ny"], 4⟩]⟩ := rfl
  obtain ⟨_, kept⟩ := (ofLines_in_range_iff ["# \x7b", "# \x7d ", "# p", "x\ny"]).2.2 bare
  obtain ⟨closing, _, blank, lines⟩ := kept _ parsed
  exact ⟨bare, parsed, closing, blank, lines⟩

/-- A line feed inside of the line on which the object stands: with no line below it the block is
out of range, and with one that line is lost. -/
theorem ofLines_feed_in_object :
    Document.ofLines ["# \x7b\n\x7d"] = .error .misplacedMetadata ∧
      Document.ofLines ["# \x7b\n\x7d", "# p"] = .ok ⟨[], []⟩ :=
  ⟨rfl, rfl⟩

end LiteratePages
