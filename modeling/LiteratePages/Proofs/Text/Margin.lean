import LiteratePages.Proofs.Agreement
import LiteratePages.Proofs.Text.LineEnds
import LiteratePages.Text.Bytes
import Mathlib.Data.List.Forall2

/-!
The margin of a text: the longest blank text that all of its lines start with that show something.
Taking it off leaves nothing to take off, and a text that is set further in has the same result.
The last part follows the bytes: every cut that finding the margin and taking it off makes in a
line lies between two of its characters.
-/
namespace LiteratePages.Text

/-- The lines that are not only blanks. -/
def shownLines (lines : List (List Char)) : List (List Char) := lines.filter (!allBlank ·)

/-- A line without the characters of a margin of this width. -/
def dedentLine (width : Nat) (line : List Char) : List Char :=
  if allBlank line then [] else line.drop width

/-- Every line that shows something is set further in. -/
def indentLines (start text : List Char) : List Char :=
  joinLines ((splitLines text).map fun line => if allBlank line then line else start ++ line)

/-- `results` are `lines` without `margin`, and no longer blank text could have been taken off. -/
structure Dedents (lines : List (List Char)) (margin : List Char) (results : List (List Char)) :
    Prop where
  blank : allBlank margin = true
  split : List.Forall₂ (fun line result =>
    if allBlank line then result = [] else line = margin ++ result) lines results
  none : shownLines lines = [] → margin = []
  longest : ∀ start, allBlank start = true → shownLines lines ≠ [] →
    (∀ line ∈ shownLines lines, start <+: line) → start <+: margin
  unshared : ∀ start, allBlank start = true → shownLines results ≠ [] →
    (∀ line ∈ shownLines results, start <+: line) → start = []

section Lines

variable {start line : List Char} {lines : List (List Char)}

theorem splitLines_append_newline (bare : Bare line) (rest : List Char) :
    splitLines (line ++ '\n' :: rest) = line :: splitLines rest := by
  induction line with
  | nil => exact splitLines_newline rest
  | cons c line ih =>
      have other : c ≠ '\n' := (List.ne_of_not_mem_cons bare).symm
      obtain ⟨piece, more, pieces, result⟩ := splitLines_cons (line ++ '\n' :: rest) other
      rw [ih (List.not_mem_of_not_mem_cons bare)] at pieces
      cases pieces
      exact result

theorem splitLines_joinLines (bare : ∀ line ∈ lines, Bare line) (some : lines ≠ []) :
    splitLines (joinLines lines) = lines := by
  induction lines with
  | nil => exact absurd rfl some
  | cons line rest ih =>
      cases rest with
      | nil => simpa [joinLines] using splitLines_of_bare (bare line List.mem_cons_self)
      | cons second rest =>
          have later := ih (fun other member => bare other (List.mem_cons_of_mem line member))
            (List.cons_ne_nil second rest)
          rw [joinLines_cons_cons, splitLines_append_newline (bare line List.mem_cons_self), later]

theorem mem_shownLines : line ∈ shownLines lines ↔ line ∈ lines ∧ allBlank line = false := by
  simp [shownLines]

theorem shownLines_eq_nil : shownLines lines = [] ↔ ∀ line ∈ lines, allBlank line = true := by
  simp [shownLines]

theorem allBlank_append (first rest : List Char) :
    allBlank (first ++ rest) = (allBlank first && allBlank rest) :=
  List.all_append

theorem splitLines_dedent (text : List Char) : splitLines (dedent text) =
    (splitLines text).map (dedentLine (margin (splitLines text)).length) := by
  refine splitLines_joinLines ?_ (by simpa using splitLines_ne_nil text)
  intro line member
  obtain ⟨whole, among, rfl⟩ := List.mem_map.mp member
  refine (bare_of_mem_splitLines among).of_subset ?_
  split
  · exact List.nil_subset whole
  · exact List.drop_subset _ whole

theorem splitLines_indentLines (bare : Bare start) (text : List Char) :
    splitLines (indentLines start text) =
      (splitLines text).map fun line => if allBlank line then line else start ++ line := by
  refine splitLines_joinLines ?_ (by simpa using splitLines_ne_nil text)
  intro line member
  obtain ⟨whole, among, rfl⟩ := List.mem_map.mp member
  have wholeBare := bare_of_mem_splitLines among
  split
  · exact wholeBare
  · exact bare_append.mpr ⟨bare, wholeBare⟩

end Lines

section Margin

variable {start line : List Char} {lines : List (List Char)}

theorem prefix_commonStart_iff {first second : List Char} :
    start <+: commonStart first second ↔ start <+: first ∧ start <+: second := by
  induction first generalizing second start with
  | nil => simp +contextual [commonStart]
  | cons a first ih =>
      cases second with
      | nil => simp +contextual [commonStart]
      | cons b second =>
          cases start with
          | nil => simp
          | cons c start =>
              rw [commonStart, List.cons_prefix_cons, List.cons_prefix_cons]
              split
              · rename_i same
                rw [List.cons_prefix_cons, ih, same]
                exact and_and_left
              · grind

theorem prefix_foldl_commonStart_iff {first : List Char} :
    start <+: lines.foldl commonStart first ↔
      start <+: first ∧ ∀ line ∈ lines, start <+: line := by
  induction lines generalizing first with
  | nil => simp
  | cons line rest ih =>
      rw [List.foldl_cons, ih, prefix_commonStart_iff, List.forall_mem_cons, and_assoc]

theorem prefix_indent_iff : start <+: indent line ↔ allBlank start = true ∧ start <+: line := by
  induction line generalizing start with
  | nil => simp +contextual [indent, allBlank]
  | cons c line ih =>
      cases start with
      | nil => simp [allBlank]
      | cons d start =>
          rw [indent] at ih ⊢
          by_cases blank : isBlank c = true
          · rw [List.takeWhile_cons_of_pos blank, List.cons_prefix_cons, List.cons_prefix_cons, ih]
            simp only [allBlank, List.all_cons, Bool.and_eq_true]
            grind
          · rw [List.takeWhile_cons_of_neg blank, List.cons_prefix_cons]
            simp only [List.prefix_nil, allBlank, List.all_cons, Bool.and_eq_true]
            grind

theorem margin_of_shownLines_nil (none : shownLines lines = []) : margin lines = [] := by
  rw [shownLines] at none
  simp [margin, none]

/-- What is shared with the margin is what all shown lines share of their blanks. -/
theorem prefix_margin_iff (some : shownLines lines ≠ []) : start <+: margin lines ↔
    allBlank start = true ∧ ∀ line ∈ shownLines lines, start <+: line := by
  cases shown : shownLines lines with
  | nil => exact absurd shown some
  | cons first rest =>
      rw [shownLines] at shown
      rw [margin, shown, List.map_cons]
      dsimp only
      rw [prefix_foldl_commonStart_iff, List.forall_mem_map, List.forall_mem_cons]
      simp only [prefix_indent_iff]
      grind

theorem allBlank_margin (lines : List (List Char)) : allBlank (margin lines) = true := by
  by_cases none : shownLines lines = []
  · rw [margin_of_shownLines_nil none]
    rfl
  · exact ((prefix_margin_iff none).mp (List.prefix_refl _)).1

theorem margin_prefix (member : line ∈ lines) (shown : allBlank line = false) :
    margin lines <+: line := by
  have among : line ∈ shownLines lines := mem_shownLines.mpr ⟨member, shown⟩
  exact ((prefix_margin_iff (List.ne_nil_of_mem among)).mp (List.prefix_refl _)).2 line among

theorem margin_append_dedentLine (member : line ∈ lines) (shown : allBlank line = false) :
    margin lines ++ dedentLine (margin lines).length line = line := by
  obtain ⟨rest, rfl⟩ := margin_prefix member shown
  rw [dedentLine, if_neg (by simp [shown]), List.drop_left]

/-- A line shows something before its margin is taken off as it does afterwards. -/
theorem allBlank_dedentLine (member : line ∈ lines) :
    allBlank (dedentLine (margin lines).length line) = allBlank line := by
  cases shown : allBlank line with
  | true => rw [dedentLine, if_pos shown]; rfl
  | false =>
      have parts := congrArg allBlank (margin_append_dedentLine member shown)
      rwa [allBlank_append, allBlank_margin, Bool.true_and, shown] at parts

theorem mem_shownLines_dedentLine (among : line ∈ shownLines lines) :
    dedentLine (margin lines).length line ∈
      shownLines (lines.map (dedentLine (margin lines).length)) := by
  obtain ⟨member, shown⟩ := mem_shownLines.mp among
  exact mem_shownLines.mpr
    ⟨List.mem_map_of_mem member, (allBlank_dedentLine member).trans shown⟩

/-- Blanks that all results share could have been taken off with the margin. -/
theorem eq_nil_of_shared (blank : allBlank start = true) (some : shownLines lines ≠ [])
    (shared : ∀ line ∈ shownLines (lines.map (dedentLine (margin lines).length)),
      start <+: line) : start = [] := by
  have longer : margin lines ++ start <+: margin lines := by
    refine (prefix_margin_iff some).mpr ⟨?_, fun line among => ?_⟩
    · rw [allBlank_append, allBlank_margin, blank, Bool.and_self]
    · obtain ⟨member, shown⟩ := mem_shownLines.mp among
      rw [← margin_append_dedentLine member shown, List.prefix_append_right_inj]
      exact shared _ (mem_shownLines_dedentLine among)
  have short := longer.length_le
  rw [List.length_append] at short
  exact List.eq_nil_of_length_eq_zero (by omega)

theorem dedents_margin (lines : List (List Char)) :
    Dedents lines (margin lines) (lines.map (dedentLine (margin lines).length)) where
  blank := allBlank_margin lines
  split := by
    refine List.forall₂_map_right_iff.mpr (List.forall₂_same.mpr fun line member => ?_)
    cases shown : allBlank line with
    | true => simp [dedentLine, shown]
    | false => exact (margin_append_dedentLine member shown).symm
  none := margin_of_shownLines_nil
  longest := fun _ blank some shared => (prefix_margin_iff some).mpr ⟨blank, shared⟩
  unshared := by
    intro start blank some shared
    refine eq_nil_of_shared blank (fun none => some ?_) shared
    rw [shownLines_eq_nil] at none ⊢
    intro result member
    obtain ⟨line, among, rfl⟩ := List.mem_map.mp member
    rw [allBlank_dedentLine among, none line among]

theorem margin_dedentLine (lines : List (List Char)) :
    margin (lines.map (dedentLine (margin lines).length)) = [] := by
  by_cases none : shownLines (lines.map (dedentLine (margin lines).length)) = []
  · exact margin_of_shownLines_nil none
  · have shared := (prefix_margin_iff none).mp (List.prefix_refl _)
    exact (dedents_margin lines).unshared _ shared.1 none shared.2

/-- Without a margin to take off, only the blanks of blank lines go. -/
theorem dedentLine_dedentLine (width : Nat) (line : List Char)
    (kept : allBlank (dedentLine width line) = allBlank line) :
    dedentLine 0 (dedentLine width line) = dedentLine width line := by
  cases shown : allBlank line with
  | true => rw [dedentLine, kept, shown, if_pos rfl, dedentLine, shown, if_pos rfl]
  | false => rw [dedentLine, kept, shown, if_neg Bool.false_ne_true, List.drop_zero]

theorem dedent_dedent (text : List Char) : dedent (dedent text) = dedent text := by
  have again : dedent (dedent text) = joinLines ((splitLines (dedent text)).map
      (dedentLine (margin (splitLines (dedent text))).length)) := rfl
  rw [again, splitLines_dedent, margin_dedentLine, List.map_map]
  refine congrArg joinLines (List.map_congr_left fun line member => ?_)
  exact dedentLine_dedentLine _ line (allBlank_dedentLine member)

end Margin

section Indenting

variable {start : List Char}

theorem commonStart_append_left (first second : List Char) :
    commonStart (start ++ first) (start ++ second) = start ++ commonStart first second := by
  induction start with
  | nil => rfl
  | cons c start ih => simp [commonStart, ih]

theorem foldl_commonStart_append_left (first : List Char) (rest : List (List Char)) :
    (rest.map (start ++ ·)).foldl commonStart (start ++ first) =
      start ++ rest.foldl commonStart first := by
  induction rest generalizing first with
  | nil => rfl
  | cons second rest ih =>
      rw [List.map_cons, List.foldl_cons, List.foldl_cons, commonStart_append_left, ih]

theorem indent_append (blank : allBlank start = true) (line : List Char) :
    indent (start ++ line) = start ++ indent line :=
  List.takeWhile_append_of_pos (List.all_eq_true.mp blank)

theorem shownLines_indented (blank : allBlank start = true) (lines : List (List Char)) :
    shownLines (lines.map fun line => if allBlank line then line else start ++ line) =
      (shownLines lines).map (start ++ ·) := by
  induction lines with
  | nil => rfl
  | cons line rest ih =>
      rw [shownLines] at ih ⊢
      cases shown : allBlank line <;>
        simp [shown, allBlank_append, blank, shownLines, ih]

theorem margin_indented (blank : allBlank start = true) {lines : List (List Char)}
    (some : shownLines lines ≠ []) :
    margin (lines.map fun line => if allBlank line then line else start ++ line) =
      start ++ margin lines := by
  have indents := shownLines_indented blank lines
  cases shown : shownLines lines with
  | nil => exact absurd shown some
  | cons first rest =>
      rw [shown] at indents
      rw [shownLines] at indents shown
      rw [margin, margin, indents, shown]
      simp only [List.map_cons, List.map_map]
      rw [indent_append blank, ← foldl_commonStart_append_left, List.map_map]
      congr 2
      funext line
      exact indent_append blank line

theorem dedent_indentLines (blank : allBlank start = true) (bare : Bare start) (text : List Char) :
    dedent (indentLines start text) = dedent text := by
  have deeper : dedent (indentLines start text) = joinLines ((splitLines (indentLines start text)).map
      (dedentLine (margin (splitLines (indentLines start text))).length)) := rfl
  rw [deeper, splitLines_indentLines bare, List.map_map]
  refine congrArg joinLines (List.map_congr_left fun line member => ?_)
  change dedentLine _ (if allBlank line then line else start ++ line) =
    dedentLine (margin (splitLines text)).length line
  cases shown : allBlank line with
  | true => simp [dedentLine, shown]
  | false =>
      have some := List.ne_nil_of_mem (mem_shownLines.mpr ⟨member, shown⟩)
      rw [margin_indented blank some, if_neg Bool.false_ne_true, dedentLine, dedentLine,
        allBlank_append, blank, shown, List.length_append, List.drop_length_add_append]
      rfl

end Indenting

section Bytes

/-- The text before byte `count` and the text after it. There is none of either when that byte is
not there or when a character lies across it. -/
def cutBytes? : Nat → List Char → Option (List Char × List Char)
  | 0, text => some ([], text)
  | _ + 1, [] => none
  | count + 1, c :: rest =>
      if c.utf8Size ≤ count + 1 then
        (cutBytes? (count + 1 - c.utf8Size) rest).map fun (before, after) => (c :: before, after)
      else none

/-- The byte at which two texts start to differ, when both go on that far. -/
def firstDifference? (place : Nat) : List Char → List Char → Option Nat
  | a :: first, b :: second =>
      if a = b then firstDifference? (place + a.utf8Size) first second else some place
  | _, _ => none

def sharedBytes (first second : List Char) : Nat :=
  (firstDifference? 0 first second).getD (min (byteLength first) (byteLength second))

/-- The blanks that a line starts with, by the bytes that the rest of it takes up. -/
def bytewiseIndent? (line : List Char) : Option (List Char) :=
  (cutBytes? (byteLength line - byteLength (trimStart line)) line).map Prod.fst

def bytewiseMargin? (lines : List (List Char)) : Option (List Char) := do
  match ← (shownLines lines).mapM bytewiseIndent? with
  | [] => some []
  | first :: rest =>
      rest.foldlM (fun common indent => (cutBytes? (sharedBytes common indent) common).map Prod.fst)
        first

/-- Dedenting by byte offsets. There is no result when a cut is out of range or inside of a
character. -/
def bytewiseDedent? (text : List Char) : Option (List Char) := do
  let width := byteLength (← bytewiseMargin? (splitLines text))
  let lines ← (splitLines text).mapM fun line =>
    if allBlank line then some [] else (cutBytes? width line).map Prod.snd
  some (joinLines lines)

theorem cutBytes?_append (before after : List Char) :
    cutBytes? (byteLength before) (before ++ after) = some (before, after) := by
  induction before with
  | nil => rw [byteLength_nil, List.nil_append, cutBytes?]
  | cons c before ih =>
      obtain ⟨count, size⟩ := Nat.exists_eq_succ_of_ne_zero (Nat.ne_of_gt c.utf8Size_pos)
      have total : byteLength (c :: before) = count + byteLength before + 1 := by
        rw [byteLength_cons]
        omega
      have left : count + byteLength before + 1 - c.utf8Size = byteLength before := by omega
      rw [total, List.cons_append, cutBytes?, if_pos (by omega), left, ih]
      rfl

/-- A cut that is made comes between two characters. -/
theorem cutBytes?_eq_some_iff {count : Nat} {text before after : List Char} :
    cutBytes? count text = some (before, after) ↔
      text = before ++ after ∧ count = byteLength before := by
  constructor
  · intro cut
    induction text generalizing count before with
    | nil =>
        cases count with
        | zero => cases cut; exact ⟨rfl, rfl⟩
        | succ count => cases cut
    | cons c rest ih =>
        cases count with
        | zero => cases cut; exact ⟨rfl, rfl⟩
        | succ count =>
            rw [cutBytes?] at cut
            split at cut
            · obtain ⟨⟨left, right⟩, inner, same⟩ := Option.map_eq_some_iff.mp cut
              cases same
              obtain ⟨rfl, bytes⟩ := ih inner
              refine ⟨rfl, ?_⟩
              rw [byteLength_cons]
              omega
            · cases cut
  · rintro ⟨rfl, rfl⟩
    exact cutBytes?_append before after

theorem bytewiseIndent?_eq (line : List Char) : bytewiseIndent? line = some (indent line) := by
  have parts := indent_append_trimStart line
  have width : byteLength line - byteLength (trimStart line) = byteLength (indent line) := by
    have sizes := congrArg byteLength parts
    rw [byteLength_append] at sizes
    omega
  have cut := cutBytes?_append (indent line) (trimStart line)
  rw [parts] at cut
  rw [bytewiseIndent?, width, cut]
  rfl

/-- Where two texts differ they have as many bytes behind them as their common start. -/
theorem firstDifference?_getD (place : Nat) (first second : List Char) :
    (firstDifference? place first second).getD
      (place + min (byteLength first) (byteLength second)) =
      place + byteLength (commonStart first second) := by
  fun_induction firstDifference? place first second with
  | case1 place a first second ih =>
      rw [commonStart, if_pos rfl, byteLength_cons, byteLength_cons, byteLength_cons,
        ← Nat.add_assoc, ← ih]
      congr 1
      omega
  | case2 place a first b second other => simp [commonStart, other]
  | case3 first place second short =>
      cases first with
      | nil => simp [commonStart]
      | cons a first =>
          cases second with
          | nil => simp [commonStart]
          | cons b second => exact absurd rfl (short a first b second rfl)

theorem sharedBytes_eq (first second : List Char) :
    sharedBytes first second = byteLength (commonStart first second) := by
  have shared := firstDifference?_getD 0 first second
  rwa [Nat.zero_add, Nat.zero_add] at shared

theorem cutBytes?_sharedBytes (first second : List Char) :
    (cutBytes? (sharedBytes first second) first).map Prod.fst = some (commonStart first second) := by
  obtain ⟨rest, parts⟩ := (prefix_commonStart_iff.mp (List.prefix_refl (commonStart first second))).1
  have cut := cutBytes?_append (commonStart first second) rest
  rw [parts] at cut
  rw [sharedBytes_eq, cut]
  rfl

theorem bytewiseMargin?_eq (lines : List (List Char)) :
    bytewiseMargin? lines = some (margin lines) := by
  have indents : (shownLines lines).mapM bytewiseIndent? = some ((shownLines lines).map indent) :=
    mapM_eq_some_map fun line _ => bytewiseIndent?_eq line
  rw [bytewiseMargin?, indents, margin, shownLines]
  cases (lines.filter (!allBlank ·)).map indent with
  | nil => rfl
  | cons first rest =>
      simp only [bind, Option.bind, cutBytes?_sharedBytes]
      exact List.foldlM_pure

theorem bytewiseDedent?_eq (text : List Char) : bytewiseDedent? text = some (dedent text) := by
  have lines : ((splitLines text).mapM fun line => if allBlank line then some [] else
      (cutBytes? (byteLength (margin (splitLines text))) line).map Prod.snd) =
      some ((splitLines text).map (dedentLine (margin (splitLines text)).length)) := by
    refine mapM_eq_some_map fun line member => ?_
    cases shown : allBlank line with
    | true => simp [dedentLine, shown]
    | false =>
        have cut := cutBytes?_append (margin (splitLines text))
          (dedentLine (margin (splitLines text)).length line)
        rw [margin_append_dedentLine member shown] at cut
        rw [if_neg Bool.false_ne_true, cut]
        rfl
  rw [bytewiseDedent?, bytewiseMargin?_eq]
  simp only [bind, Option.bind, lines]
  rfl

end Bytes

end LiteratePages.Text

namespace LiteratePages

/-- Dedenting takes off the longest blank text that all lines share, and nothing else. Doing so
again changes nothing, nor does setting the text further in beforehand, and no cut of it is out of
range or inside of a character. -/
theorem dedent_removes_margin (text : String) :
    (∃ margin, Text.Dedents (Text.splitLines text.toList) margin
      (Text.splitLines (dedent text).toList)) ∧
    dedent (dedent text) = dedent text ∧
    (∀ start, Text.allBlank start = true → Text.Bare start →
      dedent (String.ofList (Text.indentLines start text.toList)) = dedent text) ∧
    Text.bytewiseDedent? text.toList = some (dedent text).toList := by
  simp only [dedent, String.toList_ofList]
  refine ⟨⟨Text.margin (Text.splitLines text.toList), ?_⟩, ?_, ?_, ?_⟩
  · rw [Text.splitLines_dedent]
    exact Text.dedents_margin _
  · rw [Text.dedent_dedent]
  · intro start blank bare
    rw [Text.dedent_indentLines blank bare]
  · exact Text.bytewiseDedent?_eq text.toList

/-- Blanks of three bytes each, of which the lines share one, before and after more are put in front
of it. -/
theorem dedent_removes_margin_wide :
    dedent "\u3000\u2003a\n \n\u3000\u3000b" = "\u2003a\n\n\u3000b" ∧
    dedent (String.ofList (Text.indentLines ['\t', '\u3000']
      "\u3000\u2003a\n \n\u3000\u3000b".toList)) = "\u2003a\n\n\u3000b" := by
  have lines : dedent "\u3000\u2003a\n \n\u3000\u3000b" = "\u2003a\n\n\u3000b" := by
    decide +kernel
  obtain ⟨_, _, indented, _⟩ := dedent_removes_margin "\u3000\u2003a\n \n\u3000\u3000b"
  have bare : '\n' ∉ ['\t', '\u3000'] := by decide
  exact ⟨lines, (indented ['\t', '\u3000'] (by decide) bare).trans lines⟩

end LiteratePages
