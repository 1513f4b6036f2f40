import LiteratePages.Proofs.Text.Lines

namespace LiteratePages.Text

/-- Every carriage return that stands before a line feed is dropped. -/
def plainEnds : List Char → List Char
  | '\r' :: '\n' :: rest => '\n' :: plainEnds rest
  | c :: rest => c :: plainEnds rest
  | [] => []

example : plainEnds ['a', '\r', '\r', '\n', '\n', '\r'] = ['a', '\r', '\n', '\n', '\r'] := rfl

section Trimming

variable {text blank : List Char}

theorem trimStart_blank_append (shows : allBlank blank = true) :
    trimStart (blank ++ text) = trimStart text :=
  List.dropWhile_append_of_pos (List.all_eq_true.mp shows)

theorem trimEnd_append_blank (shows : allBlank blank = true) :
    trimEnd (text ++ blank) = trimEnd text := by
  rw [trimEnd, List.reverse_append, List.dropWhile_append_of_pos, trimEnd]
  intro c member
  exact List.all_eq_true.mp shows c (List.mem_reverse.mp member)

theorem trim_blank_append (shows : allBlank blank = true) : trim (blank ++ text) = trim text := by
  rw [trim, trimStart_blank_append shows, trim]

theorem trim_append_blank (shows : allBlank blank = true) : trim (text ++ blank) = trim text := by
  have gone : trimStart (blank ++ []) = trimStart [] := trimStart_blank_append shows
  rw [List.append_nil] at gone
  rw [trim, trim, trimStart, trimStart, List.dropWhile_append]
  split
  · rename_i empty
    rw [List.isEmpty_iff.mp empty]
    exact congrArg trimEnd gone
  · exact trimEnd_append_blank shows

theorem head?_trimStart_ne_newline (text : List Char) : (trimStart text).head? ≠ some '\n' := by
  intro newline
  have shown := List.head?_dropWhile_not isBlank text
  rw [← trimStart, newline] at shown
  exact absurd shown (by decide)

theorem getLast?_trimEnd_ne_return (text : List Char) : (trimEnd text).getLast? ≠ some '\r' := by
  intro return'
  have shown := List.head?_dropWhile_not isBlank text.reverse
  rw [trimEnd, List.getLast?_reverse] at return'
  rw [return'] at shown
  exact absurd shown (by decide)

/-- What `trimEnd` takes off. -/
theorem exists_trimEnd_append (text : List Char) :
    ∃ blank, allBlank blank = true ∧ text = trimEnd text ++ blank := by
  refine ⟨(text.reverse.takeWhile isBlank).reverse, ?_, ?_⟩
  · rw [allBlank, List.all_reverse]
    exact List.all_takeWhile
  · rw [trimEnd, ← List.reverse_append, List.takeWhile_append_dropWhile, List.reverse_reverse]

theorem allBlank_indent (text : List Char) : allBlank (indent text) = true :=
  List.all_takeWhile

end Trimming

theorem plainEnds_cons {c : Char} {rest : List Char}
    (apart : c = '\r' → rest.head? ≠ some '\n') : plainEnds (c :: rest) = c :: plainEnds rest := by
  rw [plainEnds]
  rintro rest' rfl rfl
  exact apart rfl rfl

/-- No carriage return at the end of the one text goes with a line feed at the start of the
other. -/
theorem plainEnds_append {first rest : List Char}
    (apart : first.getLast? = some '\r' → rest.head? ≠ some '\n') :
    plainEnds (first ++ rest) = plainEnds first ++ plainEnds rest := by
  fun_induction plainEnds first with
  | case1 tail ih =>
      rw [List.cons_append, List.cons_append, plainEnds, List.cons_append, ih]
      intro final
      exact apart (by simp [List.getLast?_cons, final])
  | case2 c tail other ih =>
      rw [List.cons_append, List.cons_append, plainEnds_cons, ih]
      · intro final
        exact apart (by simp [List.getLast?_cons, final])
      · rintro rfl newline
        cases tail with
        | nil => exact apart rfl newline
        | cons next tail =>
            cases newline
            exact other tail rfl rfl
  | case3 => rfl

theorem plainEnds_of_bare {line : List Char} (bare : Bare line) : plainEnds line = line := by
  induction line with
  | nil => rfl
  | cons c rest ih =>
      have later : Bare rest := bare.of_subset (List.subset_cons_self c rest)
      rw [plainEnds_cons, ih later]
      intro _ newline
      exact later (List.mem_of_mem_head? newline)

theorem plainEnds_line {line : List Char} (bare : Bare line) (rest : List Char) :
    plainEnds (line ++ '\n' :: rest) = dropFinal '\r' line ++ '\n' :: plainEnds rest := by
  unfold dropFinal
  split
  · rename_i final
    obtain ⟨start, rfl⟩ := List.getLast?_eq_some_iff.mp final
    obtain ⟨kept, -⟩ := bare_append.mp bare
    rw [List.dropLast_concat, List.append_assoc, List.singleton_append, plainEnds_append (by simp),
      plainEnds_of_bare kept, plainEnds]
  · rename_i other
    have single : plainEnds ('\n' :: rest) = '\n' :: plainEnds rest :=
      plainEnds_cons fun same => absurd same (by decide)
    rw [plainEnds_append fun final => absurd final other, plainEnds_of_bare bare, single]

theorem allBlank_plainEnds (text : List Char) : allBlank (plainEnds text) = allBlank text := by
  fun_induction plainEnds text with
  | case1 tail ih =>
      change (true && allBlank (plainEnds tail)) = (true && (true && allBlank tail))
      rw [ih]
      rfl
  | case2 c tail other ih =>
      change (isBlank c && allBlank (plainEnds tail)) = (isBlank c && allBlank tail)
      rw [ih]
  | case3 => rfl

theorem trim_plainEnds_trim (text : List Char) :
    trim (plainEnds (trim text)) = trim (plainEnds text) := by
  have start : plainEnds text = plainEnds (indent text) ++ plainEnds (trimStart text) := by
    rw [← plainEnds_append fun _ => head?_trimStart_ne_newline text, indent_append_trimStart]
  obtain ⟨blank, shows, whole⟩ := exists_trimEnd_append (trimStart text)
  have finish : plainEnds (trimStart text) = plainEnds (trim text) ++ plainEnds blank := by
    rw [trim, ← plainEnds_append, ← whole]
    exact fun final => absurd final (getLast?_trimEnd_ne_return _)
  rw [start, finish, trim_blank_append, trim_append_blank]
  · rwa [allBlank_plainEnds]
  · rw [allBlank_plainEnds]
    exact allBlank_indent text

theorem joinLines_concat_nil {lines : List (List Char)} (some : lines ≠ []) :
    joinLines (lines ++ [[]]) = joinLines lines ++ ['\n'] := by
  induction lines with
  | nil => exact absurd rfl some
  | cons line rest ih =>
      cases rest with
      | nil => simp [joinLines]
      | cons second rest =>
          rw [List.cons_append, joinLines_cons line (by simp), ih (by simp),
            joinLines_cons line (by simp), List.append_assoc, List.cons_append]

/-- All lines but the last one stand before a line feed. -/
theorem plainEnds_joinLines {lines : List (List Char)} {last : List Char}
    (bare : ∀ line ∈ lines ++ [last], Bare line) :
    plainEnds (joinLines (lines ++ [last])) =
      joinLines (lines.map (dropFinal '\r') ++ [last]) := by
  induction lines with
  | nil =>
      have only : joinLines ([] ++ [last]) = last := by simp [joinLines]
      rw [List.map_nil, only]
      exact plainEnds_of_bare (bare last (by simp))
  | cons line rest ih =>
      have later := ih fun other member => bare other (List.mem_cons_of_mem line member)
      rw [List.cons_append, joinLines_cons line (by simp), plainEnds_line (bare line (by simp)),
        later, List.map_cons, List.cons_append, joinLines_cons _ (by simp)]

/-- But for blanks at its ends, a text that is read as lines and joined again is the text with its
carriage returns dropped. -/
theorem trim_joinLines_sourceLines (text : List Char) :
    trim (joinLines (sourceLines text)) = trim (plainEnds text) := by
  obtain ⟨lines, last, pieces⟩ :=
    (List.eq_nil_or_concat (splitLines text)).resolve_left (splitLines_ne_nil text)
  rw [List.concat_eq_append] at pieces
  have plain : plainEnds text = joinLines (lines.map (dropFinal '\r') ++ [last]) := by
    rw [← plainEnds_joinLines, ← pieces, joinLines_splitLines]
    intro line member
    rw [← pieces] at member
    exact bare_of_mem_splitLines member
  rw [plain]
  unfold sourceLines
  dsimp only
  rw [pieces, List.dropLast_concat, List.getLast?_concat]
  cases last with
  | cons c rest => rfl
  | nil =>
      cases lines with
      | nil => rfl
      | cons line rest => rw [joinLines_concat_nil (by simp), trim_append_blank (by decide)]

end LiteratePages.Text
