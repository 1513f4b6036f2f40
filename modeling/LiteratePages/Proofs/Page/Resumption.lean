import LiteratePages.Proofs.Page.Segmentation

/-!
Cutting a source in two. The segments of the first part can be gone on from with the segments of
the second, each taken as a whole, and give those of the whole source: a segment that is taken in
joins as much as its lines would one by one.
-/
namespace LiteratePages

/-- What goes on with the start of a merged segment goes on with all of it, and to the same kind. -/
theorem SegmentKind.combine?_merged {left first second merged begun : SegmentKind}
    (joined : first.combine? second = some merged) (begins : left.combine? first = some begun) :
    ∃ whole, begun.combine? second = some whole ∧ left.combine? merged = some whole := by
  cases first <;> cases second <;> simp only [combine?, reduceCtorEq, Option.some.injEq] at joined
  all_goals
    subst joined
    cases left <;> simp only [combine?, reduceCtorEq, Option.some.injEq] at begins <;>
      subst begins <;> exact ⟨_, rfl, rfl⟩

namespace Segment

variable {left first second merged begun : Segment}

/-- Taking in two segments one after the other is taking in what they are together. -/
theorem combine?_merged (joined : first.combine? second = some merged)
    (begins : left.combine? first = some begun) :
    ∃ whole, begun.combine? second = some whole ∧ left.combine? merged = some whole := by
  obtain ⟨joinedKind, joinedLines, _⟩ := combine?_eq_some joined
  obtain ⟨begunKind, begunLines, begunStart⟩ := combine?_eq_some begins
  obtain ⟨kind, goesOn, together⟩ := SegmentKind.combine?_merged joinedKind begunKind
  refine ⟨⟨kind, left.lines ++ merged.lines, left.start⟩, ?_, ?_⟩
  · simp only [combine?, goesOn, Option.map_some, begunLines, begunStart, joinedLines,
      List.append_assoc]
  · simp only [combine?, together, Option.map_some]

/-- Goes on from segments with one more, which the last of them takes in if it can. -/
def resume (segments : List Segment) (next : Segment) : List Segment :=
  match segments.getLast? with
  | none => [next]
  | some last => match last.combine? next with
      | some merged => segments.dropLast ++ [merged]
      | none => segments ++ [next]

theorem resume_concat (done : List Segment) (last next : Segment) :
    resume (done ++ [last]) next = match last.combine? next with
      | some merged => done ++ [merged]
      | none => done ++ [last] ++ [next] := by
  simp only [resume, List.getLast?_concat, List.dropLast_concat]

theorem resume_merged (joined : first.combine? second = some merged) (segments : List Segment) :
    resume (resume segments first) second = resume segments merged := by
  rcases List.eq_nil_or_concat segments with rfl | ⟨done, last, rfl⟩
  · have alone : resume ([] ++ [first]) second = [] ++ [merged] := by
      rw [resume_concat, joined]
    exact alone
  · rw [List.concat_eq_append, resume_concat, resume_concat]
    cases begins : last.combine? first with
    | some begun =>
        obtain ⟨whole, goesOn, together⟩ := combine?_merged joined begins
        simp only [resume_concat, goesOn, together]
    | none =>
        have apart : last.combine? merged = none :=
          combine?_eq_none_iff.mpr (SegmentKind.combine?_merged_eq_none
            (combine?_eq_none_iff.mp begins) (combine?_eq_some joined).1)
        simp only [resume_concat, joined, apart]

theorem foldl_resume_concat (done : List Segment) (current : Segment) (rest : List Segment) :
    rest.foldl resume (done ++ [current]) = done ++ chain current rest := by
  induction rest generalizing done current with
  | nil => rfl
  | cons next rest ih =>
      rw [List.foldl_cons, resume_concat]
      cases combined : current.combine? next with
      | some merged => simp only [chain, combined, ih]
      | none =>
          dsimp only
          rw [ih (done ++ [current]) next, List.append_assoc, List.singleton_append]
          simp only [chain, combined]

theorem merge_eq_foldl_resume (segments : List Segment) :
    merge segments = segments.foldl resume [] := by
  cases segments with
  | nil => rfl
  | cons first rest => exact (foldl_resume_concat [] first rest).symm

/-- Segments that have been merged already go on from others as the segments they are made of do.
The induction is on what is left to merge, so that a merge which reaches over several segments is
followed one segment at a time. -/
theorem foldl_resume_chain (segments : List Segment) (current : Segment) (rest : List Segment) :
    (chain current rest).foldl resume segments = (current :: rest).foldl resume segments := by
  induction rest generalizing segments current with
  | nil => rfl
  | cons next rest ih =>
      cases combined : current.combine? next with
      | some merged =>
          simp only [chain, combined, ih, List.foldl_cons, resume_merged combined]
      | none => simp only [chain, combined, List.foldl_cons, ih]

theorem foldl_resume_merge (segments others : List Segment) :
    (merge others).foldl resume segments = others.foldl resume segments := by
  cases others with
  | nil => rfl
  | cons first rest => exact foldl_resume_chain segments first rest

theorem singles_append (number : Nat) (lines others : List String) :
    singles number (lines ++ others) =
      singles number lines ++ singles (number + lines.length) others := by
  induction lines generalizing number with
  | nil => rfl
  | cons line rest ih =>
      simp only [List.cons_append, singles, ih, List.length_cons,
        show number + 1 + rest.length = number + (rest.length + 1) by omega]

/-- The segments of two sources put one behind the other are those of the first, gone on from with
those of the second, which are numbered on and taken one whole segment at a time: the last segment
takes in the next if it can, and otherwise the next one comes behind it. -/
theorem segments_append (lines others : List String) :
    Segment.segments (lines ++ others) =
      ((Segment.segments others).map (renumber lines.length)).foldl resume
        (Segment.segments lines) := by
  have whole : Segment.segments (lines ++ others) =
      (singles (1 + lines.length) (others.map withoutEnd)).foldl resume
        (Segment.segments lines) := by
    simp only [Segment.segments, ofLines_eq_merge, List.map_append, singles_append,
      List.length_map, merge_eq_foldl_resume, List.foldl_append]
  rw [whole, ← foldl_resume_merge, ← ofLines_eq_merge, ofLines_add]
  rfl

/-- The flag takes in both code and the blank line behind it. -/
example : Segment.segments (["p", "#$"] ++ ["x", "", "# y"]) =
    [⟨.code, ["p"], 1⟩, ⟨.listing, ["#$", "x", ""], 2⟩, ⟨.prose, ["# y"], 5⟩] := by decide +kernel

end Segment
end LiteratePages
