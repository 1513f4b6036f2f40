import LiteratePages.Proofs.Template.Scanning
import LiteratePages.Proofs.Text.Lines

namespace LiteratePages

namespace Body

/-- Each range is that of one of the expressions in their text. -/
theorem exists_of_mem_rangesFrom (before after : List Char) {holes : List Hole} {opening stop : Nat}
    (member : (opening, stop) ∈ rangesFrom (Text.byteLength before) holes) :
    ∃ hole ∈ holes, ∃ left right, before ++ toChars ⟨holes, after⟩ =
        left ++ Hole.written hole ++ right ∧ Text.byteLength left = opening ∧
      opening + Text.byteLength (Hole.written hole) = stop := by
  induction holes generalizing before with
  | nil => simp [rangesFrom] at member
  | cons hole rest ih =>
      rw [rangesFrom, ← Text.byteLength_append, ← Text.byteLength_append] at member
      rcases List.mem_cons.mp member with same | member
      · obtain ⟨rfl, rfl⟩ := Prod.mk.inj same
        refine ⟨hole, List.mem_cons_self, before ++ hole.before, toChars ⟨rest, after⟩, ?_, rfl, ?_⟩
        · simp [toChars_cons]
        · rw [Text.byteLength_append (before ++ hole.before)]
      · obtain ⟨found, among, left, right, parts, size, stop⟩ := ih _ member
        refine ⟨found, List.mem_cons_of_mem _ among, left, right, ?_, size, stop⟩
        rw [← parts, toChars_cons]
        simp

end Body

/-- The text around an expression, and the code that is in it. -/
theorem exists_of_mem_expressionRanges {text : String} {opening stop : Nat}
    (found : (opening, stop) ∈ expressionRanges text) :
    ∃ left code right, text.toList = left ++ (code ++ closingPair ++ right) ∧
      Body.EndsEarly code ∧ Text.byteLength left = opening + 2 ∧
      Text.byteLength left + Text.byteLength code = stop - 2 := by
  obtain ⟨hole, member, left, right, parts, size, last⟩ :=
    Body.exists_of_mem_rangesFrom [] (Body.ofChars text.toList).after found
  rw [List.nil_append, Body.toChars_ofChars] at parts
  have braces : Text.byteLength ['\x7b', '\x7b'] = 2 ∧ Text.byteLength ['\x7d', '\x7d'] = 2 :=
    ⟨rfl, rfl⟩
  have early := (Body.settled_ofChars text.toList).code hole member
  refine ⟨left ++ ['\x7b', '\x7b'], hole.code, right, ?_, early, ?_, ?_⟩
  · rw [parts, Body.Hole.written, closingPair]
    simp only [List.append_assoc]
  · rw [Text.byteLength_append, size, braces.1]
  · rw [← last, Body.Hole.written]
    simp only [Text.byteLength_append, size, braces]
    omega

/-- An expression ends at the first closing pair behind its first character. That is the first
behind its opening pair just when none follows that pair directly, and then the code that is run
holds no closing pair. -/
theorem expression_closes_first {text : String} {opening stop : Nat}
    (found : (opening, stop) ∈ expressionRanges text) :
    FirstAt closingPair text.toList (opening + 3) (stop - 2) ∧
      (FirstAt closingPair text.toList (opening + 2) (stop - 2) ↔
        ¬ OccursAt closingPair text.toList (opening + 2)) ∧
      (¬ OccursAt closingPair text.toList (opening + 2) →
        ¬ closingPair <:+: (dedent (bytesBetween text (opening + 2) (stop - 2))).toList) := by
  obtain ⟨left, code, right, parts, early, size, last⟩ := exists_of_mem_expressionRanges found
  have piece : bytesBetween text (opening + 2) (stop - 2) = String.ofList code := by
    have whole := bytesBetween_ofList left code (closingPair ++ right)
    rwa [List.append_assoc, ← List.append_assoc code, ← parts, String.ofList_toList, last,
      size] at whole
  have next : FirstAt closingPair text.toList (opening + 3) (stop - 2) := by
    have behind := (early.firstAt right).append left
    rwa [last, size, ← parts] at behind
  obtain ⟨first, more, rfl, early⟩ := early
  refine ⟨next, next.iff_of_next, fun missing inside => ?_⟩
  rw [piece, dedent, String.toList_ofList, String.toList_ofList] at inside
  have bare : Text.Bare closingPair := by simp [Text.Bare, closingPair]
  have held := Text.infix_of_infix_dedent bare (by decide) inside
  rcases List.infix_cons_iff.mp held with ⟨rest, same⟩ | held
  · refine missing ?_
    rw [parts, ← size]
    exact ⟨left, rest ++ closingPair ++ right, by simp [← same], rfl⟩
  · exact early (held.trans (List.prefix_append ..).isInfix)

theorem expression_closes_first_braces :
    (2, 11) ∈ expressionRanges "é\x7b\x7b \x7ba\x7d \x7d\x7d\x7d" ∧
      FirstAt closingPair "é\x7b\x7b \x7ba\x7d \x7d\x7d\x7d".toList 4 9 ∧
      ¬ closingPair <:+: (dedent (bytesBetween "é\x7b\x7b \x7ba\x7d \x7d\x7d\x7d" 4 9)).toList := by
  have found : (2, 11) ∈ expressionRanges "é\x7b\x7b \x7ba\x7d \x7d\x7d\x7d" := by decide +kernel
  have missing :
      ¬ OccursAt closingPair "é\x7b\x7b \x7ba\x7d \x7d\x7d\x7d".toList 4 := by decide +kernel
  have closes := expression_closes_first found
  exact ⟨found, closes.2.1.mpr missing, closes.2.2 missing⟩

/-- In a text that begins with an empty pair the expression goes on to the next closing pair, and
what stands between is run. -/
theorem expression_past_empty_pair :
    ∃ text opening stop, (opening, stop) ∈ expressionRanges text ∧
      ¬ FirstAt closingPair text.toList (opening + 2) (stop - 2) ∧
      closingPair <:+: (dedent (bytesBetween text (opening + 2) (stop - 2))).toList := by
  refine ⟨"\x7b\x7b\x7d\x7d \x7b\x7b a \x7d\x7d", 0, 12, by decide +kernel, ?_,
    [], " \x7b\x7b a ".toList, by decide +kernel⟩
  intro closes
  have empty : OccursAt closingPair "\x7b\x7b\x7d\x7d \x7b\x7b a \x7d\x7d".toList 2 := by
    decide +kernel
  exact absurd (closes.first 2 empty (Nat.le_refl 2)) (by decide)

end LiteratePages
