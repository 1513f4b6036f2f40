import LiteratePages.Page.Segment

namespace LiteratePages.Text

/-- An item of two lists put together is one of the first or of the second. -/
theorem append_eq_append_cons {α : Type} {first second left right : List α} {a : α}
    (same : first ++ second = left ++ a :: right) :
    (∃ more, first = left ++ a :: more ∧ right = more ++ second) ∨
      ∃ more, left = first ++ more ∧ second = more ++ a :: right := by
  rcases List.append_eq_append_iff.mp same with ⟨more, rfl, rfl⟩ | ⟨more, rfl, tail⟩
  · exact .inr ⟨more, rfl, rfl⟩
  · cases more with
    | nil => exact .inr ⟨[], by simp, by simpa using tail.symm⟩
    | cons b more =>
        obtain ⟨rfl, rfl⟩ := List.cons.inj tail
        exact .inl ⟨more, rfl, rfl⟩

def Bare (line : List Char) : Prop := '\n' ∉ line

theorem Bare.of_subset {line other : List Char} (bare : Bare line) (within : other ⊆ line) :
    Bare other :=
  fun member => bare (within member)

theorem bare_append {first rest : List Char} : Bare (first ++ rest) ↔ Bare first ∧ Bare rest := by
  simp [Bare]

theorem Bare.count {line : List Char} (bare : Bare line) : line.count '\n' = 0 :=
  List.count_eq_zero.mpr bare

theorem Bare.takeWhile_append {line : List Char} (bare : Bare line) (rest : List Char) :
    (line ++ rest).takeWhile (· ≠ '\n') = line ++ rest.takeWhile (· ≠ '\n') :=
  List.takeWhile_append_of_pos fun _ member =>
    decide_eq_true fun same => bare (same ▸ member)

theorem dropFinal_subset (c : Char) (text : List Char) : dropFinal c text ⊆ text := by
  unfold dropFinal
  split
  · exact List.dropLast_subset text
  · exact List.Subset.refl text

theorem bare_of_mem_splitLines {text line : List Char} (member : line ∈ splitLines text) :
    Bare line := by
  induction text generalizing line with
  | nil =>
      rw [splitLines_nil, List.mem_singleton] at member
      subst member
      exact List.not_mem_nil
  | cons c rest ih =>
      by_cases newline : c = '\n'
      · subst newline
        rw [splitLines_newline] at member
        rcases List.mem_cons.mp member with rfl | member
        · exact List.not_mem_nil
        · exact ih member
      · obtain ⟨piece, more, pieces, result⟩ := splitLines_cons rest newline
        rw [result] at member
        rw [pieces] at ih
        rcases List.mem_cons.mp member with rfl | member
        · intro inside
          rcases List.mem_cons.mp inside with same | inside
          · exact newline same.symm
          · exact ih (by simp) inside
        · exact ih (by simp [member])

theorem splitLines_of_bare {line : List Char} (bare : Bare line) : splitLines line = [line] := by
  induction line with
  | nil => rfl
  | cons c rest ih =>
      obtain ⟨piece, more, pieces, result⟩ :=
        splitLines_cons rest (List.ne_of_not_mem_cons bare).symm
      rw [ih (List.not_mem_of_not_mem_cons bare)] at pieces
      cases pieces
      exact result

/-- One line that shows something loses the blanks that it starts with. -/
theorem dedent_of_bare {line : List Char} (bare : Bare line) (shown : allBlank line = false) :
    dedent line = trimStart line := by
  have alone : margin [line] = indent line := by simp [margin, shown]
  have start := congrArg (List.drop (indent line).length) (indent_append_trimStart line)
  rw [List.drop_left] at start
  simp [dedent, splitLines_of_bare bare, alone, shown, joinLines, start]

theorem bare_of_mem_sourceLines {text line : List Char} (member : line ∈ sourceLines text) :
    Bare line := by
  have ended : ∀ line ∈ (splitLines text).dropLast.map (dropFinal '\r'), Bare line := by
    intro line member
    obtain ⟨piece, inside, rfl⟩ := List.mem_map.mp member
    exact (bare_of_mem_splitLines (List.dropLast_subset _ inside)).of_subset (dropFinal_subset _ _)
  unfold sourceLines at member
  dsimp only at member
  split at member
  · exact ended line member
  · exact ended line member
  · rename_i last _ final
    rcases List.mem_append.mp member with member | member
    · exact ended line member
    · rw [List.mem_singleton.mp member]
      exact bare_of_mem_splitLines (List.mem_of_getLast? final)

theorem joinLines_cons {rest : List (List Char)} (line : List Char) (some : rest ≠ []) :
    joinLines (line :: rest) = line ++ '\n' :: joinLines rest := by
  cases rest with
  | nil => exact absurd rfl some
  | cons second rest => exact joinLines_cons_cons line second rest

/-- Line feeds stand between lines, and in them if they are not bare. -/
theorem count_joinLines_eq {lines : List (List Char)} (nonempty : lines ≠ []) :
    (joinLines lines).count '\n' + 1 = lines.length + lines.flatten.count '\n' := by
  induction lines with
  | nil => exact absurd rfl nonempty
  | cons first rest ih =>
      cases rest with
      | nil => simp [joinLines, Nat.add_comm]
      | cons second rest =>
          have others := ih (List.cons_ne_nil second rest)
          rw [joinLines_cons_cons, List.count_append, List.count_cons_self, List.flatten_cons,
            List.count_append, List.length_cons]
          omega

theorem count_joinLines {lines : List (List Char)} (bare : ∀ line ∈ lines, Bare line)
    (nonempty : lines ≠ []) : (joinLines lines).count '\n' + 1 = lines.length := by
  have none : Bare lines.flatten := by
    intro inside
    obtain ⟨line, member, inside⟩ := List.mem_flatten.mp inside
    exact bare line member inside
  rw [count_joinLines_eq nonempty, none.count, Nat.add_zero]

/-- A text made of lines is cut in two by cutting one of its lines in two. -/
theorem joinLines_append (above : List (List Char)) (front back : List Char)
    (below : List (List Char)) :
    joinLines (above ++ (front ++ back) :: below) =
      joinLines (above ++ [front]) ++ joinLines (back :: below) := by
  induction above with
  | nil => cases below <;> simp [joinLines, List.intercalate]
  | cons first above ih =>
      rw [List.cons_append, List.cons_append, joinLines_cons first (by simp),
        joinLines_cons first (by simp), ih, List.append_assoc, List.cons_append]

/-- Every character but those between the lines stands in one of them. -/
theorem exists_line_of_joinLines {lines : List (List Char)} {before rest : List Char} {c : Char}
    (other : c ≠ '\n') (joined : joinLines lines = before ++ c :: rest) :
    ∃ above front back below, lines = above ++ (front ++ c :: back) :: below ∧
      before = joinLines (above ++ [front]) ∧ rest = joinLines (back :: below) := by
  induction lines generalizing before with
  | nil => exact absurd joined (by simp [joinLines])
  | cons first more ih =>
      cases more with
      | nil =>
          have whole : first = before ++ c :: rest := by simpa [joinLines] using joined
          exact ⟨[], before, rest, [], by simp [whole], by simp [joinLines], by simp [joinLines]⟩
      | cons second more =>
          rw [joinLines_cons_cons] at joined
          rcases append_eq_append_cons joined with ⟨back, rfl, rfl⟩ | ⟨added, rfl, tail⟩
          · exact ⟨[], before, back, second :: more, rfl, by simp [joinLines],
              (joinLines_cons_cons ..).symm⟩
          · cases added with
            | nil =>
                rw [List.nil_append, List.cons.injEq] at tail
                exact absurd tail.1.symm other
            | cons newline added =>
                rw [List.cons_append, List.cons.injEq] at tail
                obtain ⟨rfl, tail⟩ := tail
                obtain ⟨above, front, back, below, lines, reached, left⟩ := ih tail
                refine ⟨first :: above, front, back, below, by rw [lines, List.cons_append], ?_, left⟩
                rw [reached, List.cons_append, joinLines_cons first (by simp)]

theorem takeWhile_joinLines_cons (line : List Char) (rest : List (List Char)) :
    (joinLines (line :: rest)).takeWhile (· ≠ '\n') = line.takeWhile (· ≠ '\n') := by
  cases rest with
  | nil => simp [joinLines]
  | cons next rest =>
      rw [joinLines_cons_cons, List.takeWhile_append]
      split
      · rename_i whole
        have same := (List.takeWhile_prefix (· ≠ '\n')).eq_of_length whole
        rw [same, List.takeWhile_cons_of_neg (by simp), List.append_nil]
      · rfl

/-- What `before` reaches of a text made of lines ends on one of them: up to the end of that line
the text is those lines and no more. -/
theorem joinLines_take {lines : List (List Char)} {before rest : List Char}
    (bare : ∀ line ∈ lines, Bare line) (joined : joinLines lines = before ++ rest) :
    joinLines (lines.take (before.count '\n' + 1)) = before ++ rest.takeWhile (· ≠ '\n') := by
  induction lines generalizing before with
  | nil =>
      obtain ⟨rfl, rfl⟩ := List.append_eq_nil_iff.mp joined.symm
      rfl
  | cons first more ih =>
      have firstBare : Bare first := bare first (by simp)
      cases more with
      | nil =>
          have whole : first = before ++ rest := by simpa [joinLines] using joined
          subst whole
          obtain ⟨beforeBare, restBare⟩ := bare_append.mp firstBare
          have shown := restBare.takeWhile_append []
          rw [List.append_nil, List.takeWhile_nil, List.append_nil] at shown
          rw [beforeBare.count, shown]
          exact joined
      | cons second more =>
          rw [joinLines_cons_cons] at joined
          rcases List.append_eq_append_iff.mp joined with ⟨added, rfl, tail⟩ | ⟨removed, rfl, tail⟩
          · cases added with
            | nil =>
                rw [List.nil_append] at tail
                simp [← tail, firstBare.count, joinLines]
            | cons c added =>
                simp only [List.cons_append, List.cons.injEq] at tail
                obtain ⟨rfl, tail⟩ := tail
                have others := ih (fun line member => bare line (by simp [member])) tail
                rw [List.take_succ_cons] at others
                rw [List.count_append, firstBare.count, List.count_cons_self, Nat.zero_add,
                  List.take_succ_cons, List.take_succ_cons, joinLines_cons_cons, others]
                simp
          · obtain ⟨beforeBare, removedBare⟩ := bare_append.mp firstBare
            rw [beforeBare.count, tail, removedBare.takeWhile_append]
            simp [joinLines]

/-- The text of some lines starts with the text of the first of them, which ends before a line
feed unless there are no others. -/
theorem joinLines_eq_take_append (lines : List (List Char)) (count : Nat) :
    ∃ more, joinLines lines = joinLines (lines.take (count + 1)) ++ more ∧
      more.takeWhile (· ≠ '\n') = [] := by
  induction lines generalizing count with
  | nil => exact ⟨[], rfl, rfl⟩
  | cons first rest ih =>
      cases rest with
      | nil => exact ⟨[], by simp, rfl⟩
      | cons second rest =>
          cases count with
          | zero =>
              refine ⟨'\n' :: joinLines (second :: rest), ?_, rfl⟩
              simp [joinLines, List.intercalate]
          | succ count =>
              obtain ⟨more, whole, bounded⟩ := ih count
              refine ⟨more, ?_, bounded⟩
              rw [List.take_succ_cons] at whole
              rw [joinLines_cons_cons, whole, List.take_succ_cons, List.take_succ_cons,
                joinLines_cons_cons, List.append_assoc, List.cons_append]

/-- What holds no line feed does not reach over one. -/
theorem infix_append_newline_iff {piece first rest : List Char} (bare : Bare piece)
    (some : piece ≠ []) :
    piece <:+: first ++ '\n' :: rest ↔ piece <:+: first ∨ piece <:+: rest := by
  have notAfter : ∀ {left right}, piece = left ++ right → right <+: '\n' :: rest → right = [] := by
    rintro left right rfl starts
    cases right with
    | nil => rfl
    | cons c right =>
        obtain ⟨rfl, _⟩ := List.cons_prefix_cons.mp starts
        exact absurd (List.mem_append_right left List.mem_cons_self) bare
  constructor
  · intro inside
    rcases List.infix_append_iff.mp inside with inside | inside | ⟨left, right, parts, ends, starts⟩
    · exact .inl inside
    · rcases List.infix_cons_iff.mp inside with starts | inside
      · exact absurd (notAfter (List.nil_append piece).symm starts) some
      · exact .inr inside
    · rw [notAfter parts starts, List.append_nil] at parts
      exact .inl (parts ▸ ends.isInfix)
  · rintro (inside | inside)
    · exact inside.trans (List.prefix_append ..).isInfix
    · exact inside.trans ((List.suffix_cons ..).trans (List.suffix_append ..)).isInfix

/-- What holds no line feed stands in one line of a text, or nowhere. -/
theorem infix_joinLines_iff {piece : List Char} {lines : List (List Char)} (bare : Bare piece)
    (some : piece ≠ []) : piece <:+: joinLines lines ↔ ∃ line ∈ lines, piece <:+: line := by
  induction lines with
  | nil => simpa [joinLines] using some
  | cons first rest ih =>
      cases rest with
      | nil => simp [joinLines]
      | cons second rest =>
          rw [joinLines_cons_cons, infix_append_newline_iff bare some, ih]
          simp only [List.mem_cons, exists_eq_or_imp]

/-- A text without its margin holds nothing that it did not hold before, line ends apart. -/
theorem infix_of_infix_dedent {piece text : List Char} (bare : Bare piece) (some : piece ≠ [])
    (inside : piece <:+: dedent text) : piece <:+: text := by
  obtain ⟨line, member, inside⟩ := (infix_joinLines_iff bare some).mp inside
  obtain ⟨whole, among, rfl⟩ := List.mem_map.mp member
  rw [← joinLines_splitLines text]
  refine (infix_joinLines_iff bare some).mpr ⟨whole, among, ?_⟩
  split at inside
  · exact absurd (List.infix_nil.mp inside) some
  · exact inside.trans (List.drop_suffix ..).isInfix

theorem allBlank_iff_trim_eq_nil (text : List Char) : allBlank text = true ↔ trim text = [] := by
  induction text with
  | nil => exact ⟨fun _ => rfl, fun _ => rfl⟩
  | cons c rest ih =>
      by_cases blank : isBlank c = true
      · simpa [trim, trimStart, allBlank, blank] using ih
      · have shown : c ∈ trim (c :: rest) := by
          have kept : trimStart (c :: rest) = c :: rest := by simp [trimStart, blank]
          rw [trim, kept, trimEnd, List.mem_reverse, List.reverse_cons, List.dropWhile_append]
          split <;> simp [blank]
        have some : trim (c :: rest) ≠ [] := List.ne_nil_of_mem shown
        simp [allBlank, blank, some]

end LiteratePages.Text
