import LiteratePages.Proofs.Text.Bytes
import LiteratePages.Template.Body
import LiteratePages.Text.Lines

namespace LiteratePages

/-- The parts of a text before, between and after ranges of its bytes, from byte `start` on. -/
def gapsFrom (text : String) (start : Nat) : List (Nat × Nat) → List String
  | [] => [bytesBetween text start text.utf8ByteSize]
  | (opening, stop) :: rest => bytesBetween text start opening :: gapsFrom text stop rest

/-- The text outside of its expressions. -/
def gaps (text : String) : List String := gapsFrom text 0 (expressionRanges text)

/-- The expressions of a text, braces included. -/
def expressionTexts (text : String) : List String :=
  (expressionRanges text).map fun (opening, stop) => bytesBetween text opening stop

/-- The code between the braces of each expression, without its margin. -/
def expressionCodes (text : String) : List String :=
  (expressionRanges text).map fun (opening, stop) =>
    dedent (bytesBetween text (opening + 2) (stop - 2))

/-- Texts put between others: a gap, a piece, the next gap, and so on. -/
def weave : List String → List String → String
  | [], _ => ""
  | gap :: gaps, [] => gap ++ weave gaps []
  | gap :: gaps, piece :: pieces => gap ++ piece ++ weave gaps pieces

namespace Body

theorem toChars_cons (hole : Hole) (rest : List Hole) (after : List Char) :
    toChars ⟨hole :: rest, after⟩ = hole.before ++ Hole.written hole ++ toChars ⟨rest, after⟩ := by
  simp [toChars]

/-- Reading a text loses none of it. -/
theorem toChars_scan (state : Scan) (text : List Char) :
    toChars (scan state text) = state.plain ++ text := by
  induction text generalizing state with
  | nil => simp [scan, toChars]
  | cons c rest ih =>
      cases state with
      | text before =>
          simp only [scan]
          split
          · rename_i brace
            rw [ih, brace, Scan.plain, Scan.plain, List.append_assoc, List.singleton_append]
          · rw [ih]
            simp [Scan.plain]
      | oneBrace before =>
          simp only [scan]
          split
          · rename_i brace
            rw [ih, brace]
            simp [Scan.plain]
          · rw [ih]
            simp [Scan.plain]
      | opened before =>
          rw [scan, ih]
          simp [Scan.plain]
      | inside before code =>
          simp only [scan]
          split
          · rename_i brace
            rw [ih, brace]
            simp [Scan.plain]
          · rw [ih]
            simp [Scan.plain]
      | closing before code =>
          simp only [scan]
          split
          · rename_i brace
            rw [toChars_cons, ih, brace]
            simp [Scan.plain, Hole.written]
          · rw [ih]
            simp [Scan.plain]

theorem toChars_ofChars (text : List Char) : toChars (ofChars text) = text :=
  toChars_scan (.text []) text

section Ranges

variable (before after : List Char) (holes : List Hole)

theorem gapsFrom_rangesFrom :
    gapsFrom (String.ofList (before ++ toChars ⟨holes, after⟩)) (Text.byteLength before)
        (rangesFrom (Text.byteLength before) holes) =
      holes.map (fun hole => String.ofList hole.before) ++ [String.ofList after] := by
  induction holes generalizing before with
  | nil =>
      have last := bytesBetween_ofList before after []
      rw [List.append_nil] at last
      simp only [rangesFrom, gapsFrom, toChars, List.flatMap_nil, List.nil_append,
        utf8ByteSize_ofList, Text.byteLength_append, last, List.map_nil]
  | cons hole rest ih =>
      have first := bytesBetween_ofList before hole.before
        (Hole.written hole ++ toChars ⟨rest, after⟩)
      have others := ih (before ++ hole.before ++ Hole.written hole)
      simp only [Text.byteLength_append, List.append_assoc] at first others
      simp only [rangesFrom, gapsFrom, toChars_cons, List.map_cons, List.cons_append,
        List.append_assoc, Nat.add_assoc, first, others]

/-- What each expression is written as, but for some characters at either end. -/
theorem map_rangesFrom (left right : List Char) (piece : Hole → List Char)
    (written : ∀ hole, Hole.written hole = left ++ piece hole ++ right) :
    (rangesFrom (Text.byteLength before) holes).map (fun range =>
        bytesBetween (String.ofList (before ++ toChars ⟨holes, after⟩))
          (range.1 + Text.byteLength left) (range.2 - Text.byteLength right)) =
      holes.map fun hole => String.ofList (piece hole) := by
  induction holes generalizing before with
  | nil => rfl
  | cons hole rest ih =>
      have whole : before ++ toChars ⟨hole :: rest, after⟩ =
          before ++ hole.before ++ left ++ piece hole ++ (right ++ toChars ⟨rest, after⟩) := by
        simp [toChars_cons, written hole]
      -- The piece ends as far after its start as it is long.
      have stop : Text.byteLength (before ++ hole.before) +
          Text.byteLength (Hole.written hole) - Text.byteLength right =
            Text.byteLength (before ++ hole.before ++ left) + Text.byteLength (piece hole) := by
        simp only [written hole, Text.byteLength_append]
        omega
      have first : bytesBetween (String.ofList (before ++ toChars ⟨hole :: rest, after⟩))
          (Text.byteLength (before ++ hole.before) + Text.byteLength left)
          (Text.byteLength (before ++ hole.before) + Text.byteLength (Hole.written hole) -
            Text.byteLength right) = String.ofList (piece hole) := by
        rw [whole, stop, ← Text.byteLength_append]
        exact bytesBetween_ofList ..
      have others := ih (before ++ hole.before ++ Hole.written hole)
      rw [List.append_assoc, List.append_assoc, ← List.append_assoc hole.before, ← toChars_cons,
        Text.byteLength_append] at others
      rw [rangesFrom, ← Text.byteLength_append, List.map_cons, List.map_cons, first, others]

end Ranges
end Body

variable (text : String)

theorem ofList_toChars : String.ofList ([] ++ Body.toChars (Body.ofChars text.toList)) = text := by
  rw [List.nil_append, Body.toChars_ofChars, String.ofList_toList]

theorem gaps_eq : gaps text = (Body.ofChars text.toList).holes.map (fun hole =>
    String.ofList hole.before) ++ [String.ofList (Body.ofChars text.toList).after] := by
  have cut := Body.gapsFrom_rangesFrom [] (Body.ofChars text.toList).after
    (Body.ofChars text.toList).holes
  rwa [ofList_toChars] at cut

theorem expressionTexts_eq : expressionTexts text =
    (Body.ofChars text.toList).holes.map fun hole => String.ofList (Body.Hole.written hole) := by
  have cut := Body.map_rangesFrom [] (Body.ofChars text.toList).after
    (Body.ofChars text.toList).holes [] [] Body.Hole.written (by simp)
  rwa [ofList_toChars] at cut

theorem expressionCodes_eq : expressionCodes text =
    (Body.ofChars text.toList).holes.map fun hole => String.ofList (Text.dedent hole.code) := by
  have cut := Body.map_rangesFrom [] (Body.ofChars text.toList).after
    (Body.ofChars text.toList).holes ['\x7b', '\x7b'] ['\x7d', '\x7d'] Hole.code fun _ => rfl
  rw [ofList_toChars] at cut
  have dedented := congrArg (List.map dedent) cut
  rw [List.map_map, List.map_map] at dedented
  exact dedented.trans (List.map_congr_left fun hole _ => by simp [dedent])

theorem weave_map (holes : List Hole) (after : List Char) (piece : Hole → List Char) :
    weave (holes.map (fun hole => String.ofList hole.before) ++ [String.ofList after])
        (holes.map fun hole => String.ofList (piece hole)) =
      String.ofList (holes.flatMap (fun hole => hole.before ++ piece hole) ++ after) := by
  induction holes with
  | nil => simp [weave]
  | cons hole rest ih =>
      rw [List.map_cons, List.map_cons, List.cons_append, weave, ih]
      simp [String.ofList_append, String.append_assoc]

/-- The gaps and the expressions of a text are all of it. -/
theorem weave_expressionTexts : weave (gaps text) (expressionTexts text) = text := by
  have whole := ofList_toChars text
  rw [gaps_eq, expressionTexts_eq, weave_map]
  exact whole

end LiteratePages
