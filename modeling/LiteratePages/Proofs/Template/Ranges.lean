import LiteratePages.Proofs.Template.Scanning

namespace LiteratePages

/-- The bytes of an expression: an opening pair, one character or more, and the first closing pair
behind the first of them. -/
structure ExpressionAt (text : List Char) (range : Nat × Nat) : Prop where
  enclosed : ∃ before code after, text = before ++ (openingPair ++ code ++ closingPair) ++ after ∧
    code ≠ [] ∧ range.1 = Text.byteLength before ∧
    range.2 = range.1 + Text.byteLength (openingPair ++ code ++ closingPair)
  shortest : ∀ place, OccursAt closingPair text place → range.1 + 2 < place → range.2 ≤ place + 2

/-- Where the last of some ranges ends, or `start` if there are none. -/
def lastStop (start : Nat) : List (Nat × Nat) → Nat
  | [] => start
  | range :: rest => lastStop range.2 rest

/-- From byte `start` of the text on, these are all expressions. -/
structure ExpressionsFrom (text : List Char) (start : Nat) (ranges : List (Nat × Nat)) : Prop where
  expression : ∀ range ∈ ranges, ExpressionAt text range
  /-- They stand in order, and no two have a byte in common. -/
  ordered : ranges.Pairwise fun earlier later => earlier.2 ≤ later.1
  start_le : ∀ range ∈ ranges, start ≤ range.1
  /-- Between one and the next nothing is opened. -/
  between : ∀ before range after, ranges = before ++ range :: after → ∀ place,
    OccursAt openingPair text place → lastStop start before ≤ place → range.1 ≤ place
  /-- Behind the last one nothing that is opened is closed again after one character or more. -/
  after : ∀ opening closing, OccursAt openingPair text opening → OccursAt closingPair text closing →
    lastStop start ranges ≤ opening → closing ≤ opening + 2

theorem ExpressionAt.opens {text : List Char} {range : Nat × Nat}
    (expression : ExpressionAt text range) : OccursAt openingPair text range.1 := by
  obtain ⟨before, code, after, rfl, _, opening, _⟩ := expression.enclosed
  exact ⟨before, code ++ closingPair ++ after, by simp, opening.symm⟩

theorem ExpressionAt.closes {text : List Char} {range : Nat × Nat}
    (expression : ExpressionAt text range) :
    ∃ place, OccursAt closingPair text place ∧ range.1 + 2 < place ∧ range.2 = place + 2 := by
  obtain ⟨before, code, after, rfl, some, opening, stop⟩ := expression.enclosed
  have inside : 0 < Text.byteLength code :=
    Nat.pos_of_ne_zero fun none => some (eq_nil_of_byteLength none)
  refine ⟨Text.byteLength (before ++ openingPair ++ code),
    ⟨before ++ openingPair ++ code, after, by simp, rfl⟩, ?_, ?_⟩
  · simp only [opening, Text.byteLength_append, byteLength_openingPair]
    omega
  · simp [stop, opening, Nat.add_assoc]

namespace ExpressionsFrom

variable {text : List Char} {start : Nat} {range : Nat × Nat} {ranges others : List (Nat × Nat)}

theorem nil_iff : ExpressionsFrom text start [] ↔ ∀ opening closing,
    OccursAt openingPair text opening → OccursAt closingPair text closing → start ≤ opening →
      closing ≤ opening + 2 :=
  ⟨fun found => found.after, fun after => ⟨by simp, .nil, by simp, by simp, after⟩⟩

theorem cons_iff : ExpressionsFrom text start (range :: ranges) ↔
    FirstAt openingPair text start range.1 ∧ ExpressionAt text range ∧
      ExpressionsFrom text range.2 ranges := by
  constructor
  · intro found
    have expression := found.expression range List.mem_cons_self
    have ordered := List.pairwise_cons.mp found.ordered
    refine ⟨⟨expression.opens, found.start_le range List.mem_cons_self,
      found.between [] range ranges rfl⟩, expression, ?_⟩
    refine ⟨fun later member => found.expression later (List.mem_cons_of_mem _ member), ordered.2,
      ordered.1, ?_, found.after⟩
    intro before later after parts
    exact found.between (range :: before) later after (congrArg (range :: ·) parts)
  · rintro ⟨first, expression, rest⟩
    obtain ⟨place, _, behind, stop⟩ := expression.closes
    have later : ∀ other ∈ ranges, start ≤ other.1 := by
      intro other member
      have := rest.start_le other member
      have := first.after
      omega
    refine ⟨List.forall_mem_cons.mpr ⟨expression, rest.expression⟩,
      List.pairwise_cons.mpr ⟨rest.start_le, rest.ordered⟩,
      List.forall_mem_cons.mpr ⟨first.after, later⟩, ?_, rest.after⟩
    intro before other after parts
    cases before with
    | nil =>
        obtain ⟨rfl, rfl⟩ := List.cons.inj parts
        exact first.first
    | cons earlier before =>
        obtain ⟨rfl, later⟩ := List.cons.inj parts
        exact rest.between before other after later

/-- There is one way only to go through a text. -/
theorem unique (first : ExpressionsFrom text start ranges)
    (second : ExpressionsFrom text start others) : ranges = others := by
  -- Where one of two ways finds an expression, so does the other.
  have missing : ∀ {start range rest}, ExpressionsFrom text start [] →
      ¬ ExpressionsFrom text start (range :: rest) := by
    intro start range rest none some
    obtain ⟨opening, expression, _⟩ := cons_iff.mp some
    obtain ⟨place, closes, behind, _⟩ := expression.closes
    exact absurd (nil_iff.mp none _ _ opening.occurs closes opening.after) (Nat.not_le.mpr behind)
  induction ranges generalizing start others with
  | nil =>
      cases others with
      | nil => rfl
      | cons range rest => exact absurd second (missing first)
  | cons range rest ih =>
      cases others with
      | nil => exact absurd first (missing second)
      | cons other more =>
          obtain ⟨opening, expression, later⟩ := cons_iff.mp first
          obtain ⟨otherOpening, otherExpression, otherLater⟩ := cons_iff.mp second
          have sameStart : range.1 = other.1 :=
            Nat.le_antisymm (opening.first _ otherOpening.occurs otherOpening.after)
              (otherOpening.first _ opening.occurs opening.after)
          obtain ⟨place, closes, behind, stop⟩ := expression.closes
          obtain ⟨otherPlace, otherCloses, otherBehind, otherStop⟩ := otherExpression.closes
          have sameStop : range.2 = other.2 := by
            have := expression.shortest otherPlace otherCloses (by omega)
            have := otherExpression.shortest place closes (by omega)
            omega
          obtain rfl : range = other := Prod.ext sameStart sameStop
          rw [ih later otherLater]

end ExpressionsFrom

namespace Body

/-- An expression that ends early, in some text around it. -/
theorem EndsEarly.expressionAt {code : List Char} (early : EndsEarly code)
    (before after : List Char) :
    ExpressionAt (before ++ (openingPair ++ code ++ closingPair) ++ after)
      (Text.byteLength before,
        Text.byteLength before + Text.byteLength (openingPair ++ code ++ closingPair)) := by
  have some : code ≠ [] := by
    obtain ⟨first, more, rfl, _⟩ := early
    exact List.cons_ne_nil first more
  refine ⟨⟨before, code, after, rfl, some, rfl, rfl⟩, fun place closes behind => ?_⟩
  have found := (early.firstAt after).append (before ++ openingPair)
  have whole : before ++ openingPair ++ (code ++ closingPair ++ after) =
      before ++ (openingPair ++ code ++ closingPair) ++ after := by simp
  rw [whole, Text.byteLength_append, byteLength_openingPair] at found
  have least := found.first place closes behind
  simp only [Text.byteLength_append, byteLength_openingPair, byteLength_closingPair]
  omega

/-- The ranges of a body whose parts are what they are taken for are those of all expressions. -/
theorem Settled.expressionsFrom {body : Body} (settled : body.Settled) (before : List Char) :
    ExpressionsFrom (before ++ toChars body) (Text.byteLength before)
      (rangesFrom (Text.byteLength before) body.holes) := by
  obtain ⟨holes, after⟩ := body
  induction holes generalizing before with
  | nil =>
      rw [rangesFrom, ExpressionsFrom.nil_iff]
      intro opening closing opens closes behind
      by_contra late
      obtain ⟨place, rfl⟩ := Nat.exists_eq_add_of_le behind
      obtain ⟨earlier, rest, rfl, rfl⟩ : OccursAt openingPair after place := opens.drop
      obtain ⟨size, rfl⟩ := Nat.exists_eq_add_of_le (Nat.le_of_not_le late)
      have behindPair : OccursAt closingPair (before ++ earlier ++ openingPair ++ rest)
          (Text.byteLength (before ++ earlier ++ openingPair) + size) := by
        simpa [toChars, Nat.add_assoc] using closes
      obtain ⟨code, last, rfl, rfl⟩ := behindPair.drop
      have none := settled.after earlier code last (by simp)
      exact late (by simp [none])
  | cons hole rest ih =>
      have unopened := settled.before hole List.mem_cons_self
      have early := settled.code hole List.mem_cons_self
      have later : Settled ⟨rest, after⟩ :=
        ⟨fun other member => settled.before other (List.mem_cons_of_mem _ member),
          fun other member => settled.code other (List.mem_cons_of_mem _ member), settled.after⟩
      have first := (unopened.firstAt (hole.code ++ closingPair ++ toChars ⟨rest, after⟩)).append
        before
      have expression := early.expressionAt (before ++ hole.before) (toChars ⟨rest, after⟩)
      have others := ih (before ++ hole.before ++ Hole.written hole) later
      have whole : before ++ toChars ⟨hole :: rest, after⟩ =
          before ++ hole.before ++ Hole.written hole ++ toChars ⟨rest, after⟩ := by
        simp [toChars_cons]
      rw [Text.byteLength_append, Text.byteLength_append] at others
      rw [Text.byteLength_append, ← Hole.written_eq] at expression
      rw [rangesFrom, ExpressionsFrom.cons_iff, whole]
      refine ⟨?_, expression, others⟩
      simpa [Hole.written_eq] using first

end Body

/-- The ranges that reading a text gives are those of all its expressions, and nothing else is. -/
theorem expressionRanges_eq_iff (text : String) (ranges : List (Nat × Nat)) :
    expressionRanges text = ranges ↔ ExpressionsFrom text.toList 0 ranges := by
  have found : ExpressionsFrom ([] ++ Body.toChars (Body.ofChars text.toList)) 0
      (expressionRanges text) := (Body.settled_ofChars text.toList).expressionsFrom []
  rw [List.nil_append, Body.toChars_ofChars] at found
  constructor
  · rintro rfl
    exact found
  · exact found.unique

example : expressionRanges "\x7b\x7b\x7d\x7d\x7d \x7b\x7b\x7bé\n\x7d\x7d" = [(0, 5), (6, 14)] := by
  decide +kernel

end LiteratePages
