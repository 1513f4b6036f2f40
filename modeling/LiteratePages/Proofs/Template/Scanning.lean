import LiteratePages.Proofs.Template.Holes

namespace LiteratePages

def openingPair : List Char := ['\x7b', '\x7b']

def closingPair : List Char := ['\x7d', '\x7d']

@[simp] theorem byteLength_openingPair : Text.byteLength openingPair = 2 := rfl

@[simp] theorem byteLength_closingPair : Text.byteLength closingPair = 2 := rfl

theorem Body.Hole.written_eq (hole : Hole) :
    written hole = openingPair ++ hole.code ++ closingPair := rfl

/-- At byte `place` of the text stands `piece`. -/
def OccursAt (piece text : List Char) (place : Nat) : Prop :=
  ∃ before after, text = before ++ piece ++ after ∧ Text.byteLength before = place

theorem occursAt_iff {piece text : List Char} {place : Nat} : OccursAt piece text place ↔
    ∃ count ∈ List.range (text.length + 1), Text.byteLength (text.take count) = place ∧
      piece <+: text.drop count := by
  constructor
  · rintro ⟨before, after, rfl, rfl⟩
    have within : before.length < (before ++ piece ++ after).length + 1 := by
      rw [List.length_append, List.length_append]
      omega
    refine ⟨before.length, List.mem_range.mpr within, ?_, ?_⟩
    · rw [List.append_assoc, List.take_left]
    · rw [List.append_assoc, List.drop_left]
      exact List.prefix_append ..
  · rintro ⟨count, _, size, after, rest⟩
    exact ⟨text.take count, after, by rw [List.append_assoc, rest, List.take_append_drop], size⟩

instance (piece text : List Char) (place : Nat) : Decidable (OccursAt piece text place) :=
  decidable_of_iff _ occursAt_iff.symm

/-- From byte `start` of the text on, `piece` stands at `place` for the first time. -/
structure FirstAt (piece text : List Char) (start place : Nat) : Prop where
  occurs : OccursAt piece text place
  after : start ≤ place
  first : ∀ other, OccursAt piece text other → start ≤ other → place ≤ other

theorem FirstAt.iff_of_next {piece text : List Char} {start place : Nat}
    (next : FirstAt piece text (start + 1) place) :
    FirstAt piece text start place ↔ ¬ OccursAt piece text start := by
  constructor
  · intro first occurs
    exact absurd (first.first start occurs (Nat.le_refl _)) (Nat.not_le.mpr next.after)
  · intro missing
    refine ⟨next.occurs, Nat.le_of_succ_le next.after, fun other occurs start => ?_⟩
    rcases Nat.eq_or_lt_of_le start with rfl | later
    · exact absurd occurs missing
    · exact next.first other occurs later

theorem eq_nil_of_byteLength {text : List Char} (none : Text.byteLength text = 0) : text = [] := by
  cases text with
  | nil => rfl
  | cons c rest =>
      have := c.utf8Size_pos
      rw [Text.byteLength_cons] at none
      omega

/-- What stands behind the first part of a text stands in the rest of it. -/
theorem OccursAt.drop {piece first rest : List Char} {place : Nat}
    (occurs : OccursAt piece (first ++ rest) (Text.byteLength first + place)) :
    OccursAt piece rest place := by
  obtain ⟨before, after, parts, size⟩ := occurs
  rw [List.append_assoc] at parts
  rcases List.append_eq_append_iff.mp parts with ⟨more, rfl, rest⟩ | ⟨more, rfl, rest⟩
  · rw [Text.byteLength_append] at size
    exact ⟨more, after, by rw [rest, List.append_assoc], by omega⟩
  · have empty : more = [] := eq_nil_of_byteLength (by
      rw [Text.byteLength_append] at size
      omega)
    subst empty
    refine ⟨[], after, rest.symm, ?_⟩
    rw [List.append_nil] at size
    rw [Text.byteLength_nil]
    omega

theorem OccursAt.append {piece rest : List Char} {place : Nat} (first : List Char)
    (occurs : OccursAt piece rest place) :
    OccursAt piece (first ++ rest) (Text.byteLength first + place) := by
  obtain ⟨before, after, rfl, rfl⟩ := occurs
  exact ⟨first ++ before, after, by simp, Text.byteLength_append ..⟩

theorem FirstAt.append {piece rest : List Char} {start place : Nat} (first : List Char)
    (found : FirstAt piece rest start place) :
    FirstAt piece (first ++ rest) (Text.byteLength first + start)
      (Text.byteLength first + place) := by
  refine ⟨found.occurs.append first, Nat.add_le_add_left found.after _, ?_⟩
  intro other occurs behind
  obtain ⟨offset, rfl⟩ := Nat.exists_eq_add_of_le (Nat.le_trans (Nat.le_add_right ..) behind)
  exact Nat.add_le_add_left (found.first offset occurs.drop (Nat.le_of_add_le_add_left behind)) _

/-- What stands behind the start of a text stands behind its first character. -/
theorem FirstAt.cons {piece rest : List Char} {place : Nat} (c : Char)
    (found : FirstAt piece rest 0 place) : FirstAt piece (c :: rest) 1 (c.utf8Size + place) := by
  have size := c.utf8Size_pos
  refine ⟨(found.append [c]).occurs, by omega, fun other occurs behind => ?_⟩
  obtain ⟨before, after, parts, rfl⟩ := occurs
  cases before with
  | nil => simp at behind
  | cons d before =>
      obtain ⟨rfl, others⟩ : c = d ∧ rest = before ++ piece ++ after := by simpa using parts
      rw [Text.byteLength_cons]
      exact Nat.add_le_add_left (found.first _ ⟨before, after, others, rfl⟩ (Nat.zero_le _)) _

section Pairs

variable {mark c : Char} {text : List Char}

/-- One more character completes a pair only where a text ends with the first half. -/
theorem pair_infix_concat_iff : [mark, mark] <:+: text ++ [c] ↔
    [mark, mark] <:+: text ∨ text.getLast? = some mark ∧ c = mark := by
  rw [List.infix_concat_iff, or_comm]
  refine or_congr Iff.rfl ⟨?_, ?_⟩
  · rintro ⟨before, parts⟩
    have halves : (before ++ [mark]) ++ [mark] = text ++ [c] := by
      rw [← parts, List.append_assoc, List.singleton_append]
    obtain ⟨rfl, last⟩ := List.append_inj' halves rfl
    exact ⟨List.getLast?_concat, (List.cons.inj last).1.symm⟩
  · rintro ⟨ends, rfl⟩
    obtain ⟨before, rfl⟩ := List.getLast?_eq_some_iff.mp ends
    exact ⟨before, by simp⟩

/-- In a text that does not hold a pair, nor begins one by its end, none stands before its end. -/
theorem exists_of_pair {rest before after : List Char} (early : ¬ [mark, mark] <:+: text ++ [mark])
    (parts : text ++ ([mark, mark] ++ rest) = before ++ ([mark, mark] ++ after)) :
    ∃ more, before = text ++ more := by
  rcases List.append_eq_append_iff.mp parts with ⟨more, whole, _⟩ | ⟨more, rfl, tail⟩
  · exact ⟨more, whole⟩
  · match more, tail with
    | [], _ => exact ⟨[], by simp⟩
    | [c], tail =>
        have same := (List.cons.inj tail).1
        exact absurd ⟨before, [], by simp [← same]⟩ early
    | c :: d :: more, tail =>
        have first := (List.cons.inj tail).1
        have second := (List.cons.inj (List.cons.inj tail).2).1
        exact absurd ⟨before, more ++ [mark], by simp [← first, ← second]⟩ early

/-- The pair that ends such a text is the first one, whatever comes behind it. -/
theorem firstAt_pair (rest : List Char) (early : ¬ [mark, mark] <:+: text ++ [mark]) :
    FirstAt [mark, mark] (text ++ [mark, mark] ++ rest) 0 (Text.byteLength text) := by
  refine ⟨⟨text, rest, rfl, rfl⟩, Nat.zero_le _, fun other occurs _ => ?_⟩
  obtain ⟨before, after, parts, rfl⟩ := occurs
  rw [List.append_assoc, List.append_assoc] at parts
  obtain ⟨more, rfl⟩ := exists_of_pair early parts
  rw [Text.byteLength_append]
  exact Nat.le_add_right ..

end Pairs

namespace Body

/-- Nothing in the text opens an expression, nor does its end together with a brace behind it. -/
def Unopened (before : List Char) : Prop := ¬ openingPair <:+: before ++ ['\x7b']

/-- A character, and up to the closing pair nothing that could close the expression. -/
def EndsEarly (code : List Char) : Prop :=
  ∃ first more, code = first :: more ∧ ¬ closingPair <:+: more ++ ['\x7d']

/-- Nothing that is opened in the text is closed in it. -/
def Unclosed (text : List Char) : Prop :=
  ∀ before code after, text = before ++ (openingPair ++ code ++ closingPair) ++ after → code = []

/-- The parts of a body are what they are taken for. -/
structure Settled (body : Body) : Prop where
  before : ∀ hole ∈ body.holes, Unopened hole.before
  code : ∀ hole ∈ body.holes, EndsEarly hole.code
  after : Unclosed body.after

/-- The text since the last expression, and before the one that is being read if there is one. -/
def Scan.passed : Scan → List Char
  | .text before | .oneBrace before | .opened before | .inside before _ | .closing before _ =>
      before.reverse

/-- What has been read of an expression ends early. -/
def Scan.Early : Scan → Prop
  | .inside _ code | .closing _ code => EndsEarly code.reverse
  | .text _ | .oneBrace _ | .opened _ => True

theorem unopened_iff {before : List Char} :
    Unopened before ↔ ¬ openingPair <:+: before ∧ before.getLast? ≠ some '\x7b' := by
  rw [Unopened, openingPair, pair_infix_concat_iff, not_or]
  simp

theorem unopened_nil : Unopened [] := by simp [unopened_iff, openingPair]

theorem Unopened.concat {before : List Char} {c : Char} (unopened : Unopened before)
    (other : c ≠ '\x7b') : Unopened (before ++ [c]) := by
  rw [unopened_iff] at unopened ⊢
  rw [openingPair, pair_infix_concat_iff, List.getLast?_concat]
  simpa [other, openingPair] using unopened.1

/-- A brace that another character follows opens nothing. -/
theorem Unopened.concat_brace {before : List Char} {c : Char} (unopened : Unopened before)
    (other : c ≠ '\x7b') : Unopened (before ++ ['\x7b'] ++ [c]) := by
  rw [unopened_iff, openingPair, pair_infix_concat_iff, List.getLast?_concat]
  simpa [other, Unopened, openingPair] using unopened

theorem EndsEarly.single (c : Char) : EndsEarly [c] := by
  refine ⟨c, [], rfl, fun inside => ?_⟩
  have short := inside.length_le
  simp [closingPair] at short

theorem EndsEarly.concat {code : List Char} {c : Char} (early : EndsEarly code)
    (other : c ≠ '\x7d') : EndsEarly (code ++ [c]) := by
  obtain ⟨first, more, rfl, early⟩ := early
  refine ⟨first, more ++ [c], rfl, fun inside => early ?_⟩
  rw [closingPair, pair_infix_concat_iff, pair_infix_concat_iff] at inside
  have kept : closingPair <:+: more := by simpa [other, closingPair] using inside
  exact kept.trans (List.prefix_append ..).isInfix

/-- A closing brace that another character follows closes nothing. -/
theorem EndsEarly.concat_brace {code : List Char} {c : Char} (early : EndsEarly code)
    (other : c ≠ '\x7d') : EndsEarly (code ++ ['\x7d'] ++ [c]) := by
  obtain ⟨first, more, rfl, early⟩ := early
  refine ⟨first, more ++ ['\x7d'] ++ [c], rfl, fun inside => early ?_⟩
  rw [closingPair, pair_infix_concat_iff, pair_infix_concat_iff] at inside
  simpa [other, closingPair] using inside

/-- An expression begins at the first opening pair. -/
theorem Unopened.firstAt {before : List Char} (unopened : Unopened before) (rest : List Char) :
    FirstAt openingPair (before ++ openingPair ++ rest) 0 (Text.byteLength before) :=
  firstAt_pair rest unopened

/-- An expression ends at the first closing pair behind its first character. -/
theorem EndsEarly.firstAt {code : List Char} (early : EndsEarly code) (rest : List Char) :
    FirstAt closingPair (code ++ closingPair ++ rest) 1 (Text.byteLength code) := by
  obtain ⟨first, more, rfl, early⟩ := early
  exact (firstAt_pair rest early).cons first

theorem unclosed_of_unopened {text : List Char} (unopened : ¬ openingPair <:+: text) :
    Unclosed text := by
  rintro before code after rfl
  exact absurd ⟨before, code ++ closingPair ++ after, by simp⟩ unopened

/-- Behind the first opening pair of a text nothing closes but what follows that pair directly. -/
theorem Unopened.unclosed {before tail : List Char} (unopened : Unopened before)
    (closed : ¬ closingPair <:+: tail.drop 1) : Unclosed (before ++ openingPair ++ tail) := by
  intro earlier code after parts
  have split : before ++ (openingPair ++ tail) =
      earlier ++ (openingPair ++ (code ++ closingPair ++ after)) := by simpa using parts
  obtain ⟨more, rfl⟩ := exists_of_pair unopened split
  rw [List.append_assoc, List.append_cancel_left_eq] at split
  by_contra some
  have long : 3 ≤ (more ++ openingPair ++ code).length := by
    have := List.length_pos_of_ne_nil some
    simp [openingPair]
    omega
  have behind : tail.drop 1 = (more ++ openingPair ++ code).drop 3 ++ (closingPair ++ after) := by
    rw [← List.drop_append_of_le_length long]
    simpa [openingPair] using congrArg (List.drop 3) split
  exact closed ⟨_, after, by rw [behind, List.append_assoc]⟩

/-- What has been read holds no expression. -/
theorem Scan.unclosed_plain {state : Scan} (unopened : Unopened state.passed)
    (early : state.Early) :
    Unclosed state.plain := by
  cases state with
  | text before => exact unclosed_of_unopened (unopened_iff.mp unopened).1
  | oneBrace before => exact unclosed_of_unopened unopened
  | opened before =>
      have closed : ¬ closingPair <:+: ([] : List Char).drop 1 := by simp [closingPair]
      have whole := unopened.unclosed closed
      rwa [List.append_nil] at whole
  | inside before code =>
      obtain ⟨first, more, read, early⟩ := early
      rw [Scan.plain, read]
      refine unopened.unclosed fun inside => early ?_
      exact inside.trans (List.prefix_append ..).isInfix
  | closing before code =>
      obtain ⟨first, more, read, early⟩ := early
      rw [Scan.plain, read, List.append_assoc]
      exact unopened.unclosed early

theorem settled_scan (state : Scan) (text : List Char) (unopened : Unopened state.passed)
    (early : state.Early) : Settled (scan state text) := by
  induction text generalizing state with
  | nil => exact ⟨by simp [scan], by simp [scan], Scan.unclosed_plain unopened early⟩
  | cons c rest ih =>
      cases state with
      | text before =>
          simp only [scan]
          split
          · exact ih (.oneBrace before) unopened trivial
          · rename_i other
            refine ih (.text (c :: before)) ?_ trivial
            simpa [Scan.passed] using unopened.concat other
      | oneBrace before =>
          simp only [scan]
          split
          · exact ih (.opened before) unopened trivial
          · rename_i other
            refine ih (.text (c :: '\x7b' :: before)) ?_ trivial
            simpa [Scan.passed] using unopened.concat_brace other
      | opened before => exact ih (.inside before [c]) unopened (EndsEarly.single c)
      | inside before code =>
          simp only [scan]
          split
          · exact ih (.closing before code) unopened early
          · rename_i other
            refine ih (.inside before (c :: code)) unopened ?_
            simpa [Scan.Early] using EndsEarly.concat early other
      | closing before code =>
          simp only [scan]
          split
          · have others := ih (.text []) unopened_nil trivial
            exact ⟨List.forall_mem_cons.mpr ⟨unopened, others.before⟩,
              List.forall_mem_cons.mpr ⟨early, others.code⟩, others.after⟩
          · rename_i other
            refine ih (.inside before (c :: '\x7d' :: code)) unopened ?_
            simpa [Scan.Early] using EndsEarly.concat_brace early other

theorem settled_ofChars (text : List Char) : Settled (ofChars text) :=
  settled_scan (.text []) text unopened_nil trivial

end Body
end LiteratePages
