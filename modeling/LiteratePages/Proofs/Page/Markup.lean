import LiteratePages.Proofs.Page.Rendering
import Mathlib.Data.List.Basic

/-!
Blocks of a page that show code or what code printed. Their HTML tells them apart: escaped text
holds no angle bracket, so that a block ends at the first end tag after its start, and code does not
end in the line feed that stands at the end of output.
-/
namespace LiteratePages

namespace Html

/-- The characters that may not stand for themselves, each with what follows an ampersand in its
place. -/
def entities : List (Char × List Char) :=
  [('&', "amp;".toList), ('<', "lt;".toList), ('>', "gt;".toList), ('"', "quot;".toList),
    ('\'', "#x27;".toList)]

/-- No entity is the start of another one. -/
theorem entities_apart :
    ∀ first ∈ entities, ∀ second ∈ entities, first.2 <+: second.2 → first = second := by
  decide

theorem escapeChar_eq (c : Char) :
    (c ≠ '&' ∧ c ≠ '<' ∧ escapeChar c = [c]) ∨
      ∃ entity, (c, entity) ∈ entities ∧ escapeChar c = '&' :: entity := by
  unfold escapeChar
  split
  case h_6 ampersand angle _ _ _ => exact .inl ⟨ampersand, angle, rfl⟩
  all_goals exact .inr ⟨_, by decide, rfl⟩

theorem angle_notMem_escapeChar (c : Char) : '<' ∉ escapeChar c := by
  rcases escapeChar_eq c with ⟨_, other, plain⟩ | ⟨entity, listed, replaced⟩
  · rw [plain, List.mem_singleton]
    exact other.symm
  · have bare : ∀ pair ∈ entities, '<' ∉ '&' :: pair.2 := by decide
    rw [replaced]
    exact bare _ listed

/-- Escaped text opens no tag and closes none. -/
theorem angle_notMem_escapeChars (text : List Char) : '<' ∉ escapeChars text := by
  intro member
  obtain ⟨c, _, inside⟩ := List.mem_flatMap.mp member
  exact angle_notMem_escapeChar c inside

/-- What stands for a character shows which one it is, whatever comes after it. -/
theorem escapeChar_append_inj {c d : Char} {left right : List Char}
    (same : escapeChar c ++ left = escapeChar d ++ right) : c = d ∧ left = right := by
  rcases escapeChar_eq c with ⟨plain, _, first⟩ | ⟨entity, listed, first⟩ <;>
    rcases escapeChar_eq d with ⟨plain', _, second⟩ | ⟨entity', listed', second⟩ <;>
    rw [first, second, List.cons_append, List.cons_append, List.cons.injEq] at same
  · exact same
  · exact absurd same.1 plain
  · exact absurd same.1.symm plain'
  · have pair : (c, entity) = (d, entity') := by
      rcases List.prefix_or_prefix_of_prefix (List.prefix_append entity left)
        (same.2 ▸ List.prefix_append entity' right) with start | start
      · exact entities_apart _ listed _ listed' start
      · exact (entities_apart _ listed' _ listed start).symm
    cases pair
    exact ⟨rfl, List.append_cancel_left same.2⟩

theorem escapeChar_ne_nil (c : Char) : escapeChar c ≠ [] := by
  rcases escapeChar_eq c with ⟨_, _, plain⟩ | ⟨entity, _, replaced⟩
  · simp [plain]
  · simp [replaced]

theorem escapeChars_injective : Function.Injective escapeChars := by
  intro first second same
  induction first generalizing second with
  | nil =>
      cases second with
      | nil => rfl
      | cons d others => exact absurd (List.append_eq_nil_iff.mp same.symm).1 (escapeChar_ne_nil d)
  | cons c rest ih =>
      cases second with
      | nil => exact absurd (List.append_eq_nil_iff.mp same).1 (escapeChar_ne_nil c)
      | cons d others =>
          obtain ⟨rfl, later⟩ := escapeChar_append_inj same
          rw [ih later]

/-- The last character of escaped text shows if that of the text does. -/
theorem exists_getLast?_escapeChars {text : List Char} {last : Char}
    (ends : text.getLast? = some last) (shows : Text.isBlank last = false) :
    ∃ c, (escapeChars text).getLast? = some c ∧ Text.isBlank c = false := by
  obtain ⟨start, rfl⟩ := List.getLast?_eq_some_iff.mp ends
  rw [escapeChars, List.flatMap_append, List.flatMap_singleton]
  rcases escapeChar_eq last with ⟨_, _, plain⟩ | ⟨entity, listed, replaced⟩
  · rw [plain]
    exact ⟨last, List.getLast?_concat, shows⟩
  · have closed : ∀ pair ∈ entities, ('&' :: pair.2).getLast? = some ';' := by decide
    rw [replaced, List.getLast?_append, closed _ listed]
    exact ⟨';', rfl, by decide⟩

end Html

/-- A part of a page that shows code, or what code printed. -/
inductive Block where
  | code (text : String)
  | output (text : String)
deriving Repr, DecidableEq

namespace Block

def text : Block → String
  | .code text | .output text => text

def html : Block → String
  | .code text => renderCode text
  | .output text => renderStdout text

/-- The block with the text that it shows: all but the blanks at its end, and for output those at
its start. -/
def shown : Block → Block
  | .code text => .code (trimEnd text)
  | .output text => .output (trim text)

/-- What stands between the tags of a block. -/
def inside : Block → List Char
  | .code text => Html.escapeChars (Text.trimEnd text.toList)
  | .output text =>
      outputHeading.toList ++ '\n' :: Html.escapeChars (Text.trim text.toList) ++ ['\n']

def markup (block : Block) : List Char := "<pre>".toList ++ block.inside ++ "</pre>".toList

theorem isEmpty_trimEnd (text : String) : (trimEnd text).isEmpty = isBlankText text := by
  rw [Bool.eq_iff_iff, String.isEmpty_iff, trimEnd, String.ofList_eq_empty_iff, Text.trimEnd,
    List.reverse_eq_nil_iff, List.dropWhile_eq_nil_iff, isBlankText, Text.allBlank,
    List.all_eq_true]
  simp

theorem toList_html {block : Block} (shows : isBlankText block.text = false) :
    block.html.toList = block.markup := by
  cases block with
  | code text =>
      have some : (LiteratePages.trimEnd text).isEmpty = false := (isEmpty_trimEnd text).trans shows
      simp only [html, renderCode, some]
      simp [markup, inside, Html.escape, LiteratePages.trimEnd]
  | output text =>
      have some : (LiteratePages.trim text).isEmpty = false := (isEmpty_trim text).trans shows
      simp only [html, renderStdout, some]
      simp [markup, inside, Html.escape, LiteratePages.trim]

theorem angle_notMem_inside (block : Block) : '<' ∉ block.inside := by
  cases block with
  | code text => exact Html.angle_notMem_escapeChars _
  | output text =>
      have heading : '<' ∉ outputHeading.toList := by decide
      simp [inside, heading, Html.angle_notMem_escapeChars]

/-- Code ends in a character that shows, and output in a line feed. -/
theorem inside_code_ne_output {code printed : String} (shows : isBlankText code = false) :
    (Block.code code).inside ≠ (Block.output printed).inside := by
  intro same
  have kept : (trimEnd code).isEmpty = false := (isEmpty_trimEnd code).trans shows
  cases ends : (Text.trimEnd code.toList).getLast? with
  | none =>
      rw [trimEnd, List.getLast?_eq_none_iff.mp ends] at kept
      cases kept
  | some last =>
      have visible := List.head?_dropWhile_not Text.isBlank code.toList.reverse
      rw [← List.getLast?_reverse, ← Text.trimEnd, ends] at visible
      obtain ⟨c, final, seen⟩ := Html.exists_getLast?_escapeChars ends (by simpa using visible)
      have newline : (Block.output printed).inside.getLast? = some '\n' := List.getLast?_concat
      rw [← same, inside, final, Option.some.injEq] at newline
      subst newline
      cases seen

theorem shown_eq_of_inside {first second : Block} (firstShows : isBlankText first.text = false)
    (secondShows : isBlankText second.text = false) (same : first.inside = second.inside) :
    first.shown = second.shown := by
  cases first with
  | code text =>
      cases second with
      | code other =>
          have trimmed : Text.trimEnd text.toList = Text.trimEnd other.toList :=
            Html.escapeChars_injective same
          simp [shown, trimEnd, trimmed]
      | output printed => exact absurd same (inside_code_ne_output firstShows)
  | output printed =>
      cases second with
      | code text => exact absurd same.symm (inside_code_ne_output secondShows)
      | output other =>
          have trimmed : Text.trim printed.toList = Text.trim other.toList := by
            apply Html.escapeChars_injective
            simpa [inside] using same
          simp [shown, trim, trimmed]

theorem html_eq_of_shown {first second : Block} (same : first.shown = second.shown) :
    first.html = second.html := by
  cases first with
  | code text =>
      cases second with
      | code other =>
          have trimmed : LiteratePages.trimEnd text = LiteratePages.trimEnd other :=
            Block.code.inj same
          simp only [html, renderCode, trimmed]
      | output printed => cases same
  | output printed =>
      cases second with
      | code text => cases same
      | output other =>
          have trimmed : LiteratePages.trim printed = LiteratePages.trim other :=
            Block.output.inj same
          simp only [html, renderStdout, trimmed]

end Block

theorem map_eq_map_of_agree {α β γ : Type} {view : α → β} {result : α → γ} {first second : List α}
    (agree : ∀ a ∈ first, ∀ b ∈ second, view a = view b → result a = result b)
    (same : first.map view = second.map view) : first.map result = second.map result := by
  induction first generalizing second with
  | nil =>
      cases second with
      | nil => rfl
      | cons b others => cases same
  | cons a rest ih =>
      cases second with
      | nil => cases same
      | cons b others =>
          obtain ⟨head, tail⟩ := List.cons.inj same
          have later := ih (fun a member b among =>
            agree a (List.mem_cons_of_mem _ member) b (List.mem_cons_of_mem _ among)) tail
          rw [List.map_cons, List.map_cons, later,
            agree a List.mem_cons_self b List.mem_cons_self head]

/-- Two texts with one mark in them agree before it and after it, where it does not occur before. -/
theorem append_cons_inj {α : Type} {mark : α} {first second left right : List α}
    (firstBare : mark ∉ first) (secondBare : mark ∉ second)
    (same : first ++ mark :: left = second ++ mark :: right) : first = second ∧ left = right := by
  rcases List.append_eq_append_iff.mp same with ⟨more, rfl, rest⟩ | ⟨more, rfl, rest⟩
  all_goals
    cases more with
    | nil => simpa [eq_comm] using rest
    | cons c more =>
        cases rest
        simp at firstBare secondBare

/-- What follows a line: nothing, or a line feed and the lines below. -/
def below : List (List Char) → List Char
  | [] => []
  | line :: rest => '\n' :: Text.joinLines (line :: rest)

theorem joinLines_eq_append_below (line : List Char) (rest : List (List Char)) :
    Text.joinLines (line :: rest) = line ++ below rest := by
  cases rest with
  | nil => simp [Text.joinLines, below]
  | cons next rest => exact Text.joinLines_cons_cons line next rest

theorem joinLines_eq_of_below {lines others : List (List Char)}
    (same : below lines = below others) : Text.joinLines lines = Text.joinLines others := by
  cases lines with
  | nil =>
      cases others with
      | nil => rfl
      | cons line rest => cases same
  | cons line rest =>
      cases others with
      | nil => cases same
      | cons other others => exact List.cons_inj_right _ |>.mp same

/-- The first tags of joined blocks show where the first block ends, and so on. -/
theorem map_inside_eq_of_joinLines {first second : List Block}
    (same : Text.joinLines (first.map Block.markup) = Text.joinLines (second.map Block.markup)) :
    first.map Block.inside = second.map Block.inside := by
  induction first generalizing second with
  | nil =>
      cases second with
      | nil => rfl
      | cons other others =>
          rw [List.map_cons, joinLines_eq_append_below] at same
          cases same
  | cons block rest ih =>
      cases second with
      | nil =>
          rw [List.map_cons, joinLines_eq_append_below] at same
          cases same
      | cons other others =>
          simp only [List.map_cons, joinLines_eq_append_below, Block.markup,
            List.append_assoc] at same
          obtain ⟨inside, closed⟩ := append_cons_inj block.angle_notMem_inside
            other.angle_notMem_inside (List.append_cancel_left same)
          have later := joinLines_eq_of_below (List.append_cancel_left closed)
          rw [List.map_cons, List.map_cons, inside, ih later]

theorem toList_joinLines_html {blocks : List Block}
    (shows : ∀ block ∈ blocks, isBlankText block.text = false) :
    (joinLines (blocks.map Block.html)).toList = Text.joinLines (blocks.map Block.markup) := by
  rw [toList_joinLines, List.map_map]
  exact congrArg Text.joinLines
    (List.map_congr_left fun block member => Block.toList_html (shows block member))

/-- Blocks with something to show have the same HTML, one below the other, only if they are as many,
of the same kinds and show the same texts in the same order. -/
theorem joinLines_html_eq_iff {first second : List Block}
    (firstShows : ∀ block ∈ first, isBlankText block.text = false)
    (secondShows : ∀ block ∈ second, isBlankText block.text = false) :
    joinLines (first.map Block.html) = joinLines (second.map Block.html) ↔
      first.map Block.shown = second.map Block.shown := by
  constructor
  · intro same
    have markup := congrArg String.toList same
    rw [toList_joinLines_html firstShows, toList_joinLines_html secondShows] at markup
    refine map_eq_map_of_agree (fun block member other among => ?_)
      (map_inside_eq_of_joinLines markup)
    exact Block.shown_eq_of_inside (firstShows block member) (secondShows other among)
  · intro same
    exact congrArg joinLines (map_eq_map_of_agree (fun _ _ _ _ => Block.html_eq_of_shown) same)

/-- Code that looks like output, code that looks like the end of a block and the start of another
one, and output that looks like either. -/
theorem joinLines_html_eq_iff_forged :
    let forged : List Block := [.code "# stdout\n1", .output "</pre>\n<pre>x", .code " a "]
    let plain : List Block := [.output "1", .output "</pre>", .code "x", .code " a"]
    (∀ block ∈ forged, isBlankText block.text = false) ∧
      (∀ block ∈ plain, isBlankText block.text = false) ∧
      forged.map Block.shown ≠ plain.map Block.shown ∧
      joinLines (forged.map Block.html) ≠ joinLines (plain.map Block.html) := by
  intro forged plain
  have forgedShows : ∀ block ∈ forged, isBlankText block.text = false := by decide
  have plainShows : ∀ block ∈ plain, isBlankText block.text = false := by decide
  have apart : forged.map Block.shown ≠ plain.map Block.shown := by decide
  exact ⟨forgedShows, plainShows, apart,
    fun same => apart ((joinLines_html_eq_iff forgedShows plainShows).mp same)⟩

end LiteratePages
