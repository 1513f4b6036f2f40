import LiteratePages.Proofs.Code.ExpressionPlacement

namespace LiteratePages.Code

variable {text : String} {start : Nat}

/-- Where a piece of the body of a format string stands in that body. -/
def RawPiece.Stands (body : List Char) : RawPiece → Prop
  | .text _ => True
  | .code place chars =>
      Span.Cuts body ⟨place, place + Text.byteLength chars⟩ chars ∧ Folded false chars
  | .unclosed place => ∃ piece, Span.Cuts body ⟨place, Text.byteLength body⟩ piece

/-- What is known of the scan of a body when the characters `passed` of it have been read and
`rest` are left. -/
def BodyScan.Reads (passed rest : List Char) : BodyScan → Prop
  | .text _ => Folded false rest
  | .escape _ => Folded true rest
  | .code opened _ chars =>
      ∃ before, passed = before ++ '\x7b' :: chars.reverse ∧ opened = Text.byteLength before ∧
        Folded false (chars.reverse ++ rest)

theorem textPiece_stands {body chars : List Char} :
    ∀ piece ∈ textPiece chars, piece.Stands body := by
  intro piece member
  unfold textPiece at member
  split at member
  · cases member
  · rw [List.mem_singleton.mp member]
    trivial

theorem stands_code {body before chars rest : List Char} {opened : Nat}
    (parts : body = before ++ '\x7b' :: (chars ++ '\x7d' :: rest))
    (opens : opened = Text.byteLength before) (folded : Folded false chars) :
    RawPiece.Stands body (.code (opened + 1) chars) := by
  have first : opened + 1 = Text.byteLength (before ++ ['\x7b']) := by
    rw [opens, Text.byteLength_append]
    rfl
  refine ⟨⟨before ++ ['\x7b'], '\x7d' :: rest, by simp [parts], first, ?_⟩, folded⟩
  rw [← first]

/-- One character of a body ends pieces that stand in it and leaves a scan of what follows. -/
theorem splitBody_cons {body passed rest : List Char} {scan : BodyScan} {place : Nat} {c : Char}
    (parts : body = passed ++ c :: rest) (reached : place = Text.byteLength passed)
    (reads : scan.Reads passed (c :: rest)) :
    ∃ found next, splitBody scan place (c :: rest) =
        found ++ splitBody next (place + c.utf8Size) rest ∧
      (∀ piece ∈ found, piece.Stands body) ∧ next.Reads (passed ++ [c]) rest := by
  cases scan with
  | text chars =>
      obtain ⟨_, folded⟩ : _ ∧ Folded (c == '\\') rest := reads
      simp only [splitBody]
      split
      · rename_i backslash
        subst backslash
        exact ⟨[], .escape chars, rfl, nofun, folded⟩
      rename_i other
      rw [beq_false_of_ne other] at folded
      split
      · rename_i brace
        subst brace
        exact ⟨textPiece chars, .code place 0 [], rfl, textPiece_stands,
          passed, rfl, reached, folded⟩
      · exact ⟨[], .text (c :: chars), rfl, nofun, folded⟩
  | escape chars =>
      obtain ⟨_, folded⟩ : _ ∧ Folded false rest := reads
      simp only [splitBody]
      exact ⟨[], .text ((unescapeChar c).reverse ++ chars), rfl, nofun, folded⟩
  | code opened depth chars =>
      obtain ⟨before, read, opens, folded⟩ := reads
      have more : ∀ depth,
          BodyScan.Reads (passed ++ [c]) rest (.code opened depth (c :: chars)) :=
        fun depth => ⟨before, by simp [read], opens, by simpa using folded⟩
      simp only [splitBody]
      split
      · exact ⟨[], .code opened (depth + 1) (c :: chars), rfl, nofun, more (depth + 1)⟩
      split
      · rename_i brace
        subst brace
        cases depth with
        | zero =>
            obtain ⟨inside, _, outside⟩ := folded_append.mp folded
            rw [beq_false_of_ne (by decide), Bool.and_false] at outside
            have around : body = before ++ '\x7b' :: (chars.reverse ++ '\x7d' :: rest) := by
              simp [parts, read]
            have code := stands_code around opens inside
            exact ⟨[.code (opened + 1) chars.reverse], .text [], rfl, by simpa using code, outside⟩
        | succ depth =>
            exact ⟨[], .code opened depth ('\x7d' :: chars), rfl, nofun, more depth⟩
      · exact ⟨[], .code opened depth (c :: chars), rfl, nofun, more depth⟩

theorem splitBody_stands {body passed rest : List Char} {scan : BodyScan} {place : Nat}
    (parts : body = passed ++ rest) (reached : place = Text.byteLength passed)
    (reads : scan.Reads passed rest) : ∀ piece ∈ splitBody scan place rest, piece.Stands body := by
  induction rest generalizing scan place passed with
  | nil =>
      rw [List.append_nil] at parts
      subst parts
      cases scan with
      | text | escape => exact textPiece_stands
      | code opened depth chars =>
          obtain ⟨before, parts, opens, _⟩ := reads
          intro piece member
          rw [List.mem_singleton.mp member]
          refine ⟨'\x7b' :: chars.reverse, before, [], by rw [parts, List.append_nil], opens, ?_⟩
          rw [parts, Text.byteLength_append]
  | cons c rest ih =>
      obtain ⟨found, next, split, stand, reads⟩ := splitBody_cons parts reached reads
      rw [List.append_cons] at parts
      have reached : place + c.utf8Size = Text.byteLength (passed ++ [c]) := by
        simp [reached]
      rw [split]
      intro piece member
      rcases List.mem_append.mp member with here | later
      · exact stand piece here
      · exact ih parts reached reads piece later

theorem readPiece_meets {levels : Nat} {body : List Char} {piece : RawPiece}
    (reads : FormatPlaced text (formatPieces levels)) (stands : piece.Stands body)
    (cuts : Span.Cuts text.toList ⟨start, start + Text.byteLength body⟩ body) :
    Meets (Piece.Placed text [⟨start, start + Text.byteLength body⟩])
      (SyntaxError.PointsInto text.toList) (readPiece levels body start piece) := by
  cases piece with
  | text => trivial
  | unclosed place =>
      obtain ⟨piece, inner⟩ := stands
      exact .inl ⟨piece, cuts.inner inner⟩
  | code place chars =>
      obtain ⟨inner, folded⟩ := stands
      have within := cuts.inner inner
      have ends := inner.stop_le
      dsimp only at within ends
      rw [← Nat.add_assoc] at within
      obtain ⟨before, after, parts, reached, _⟩ := id within
      have read := tokenize_meets parts reached (.inr folded)
      unfold readPiece
      dsimp only at reached ⊢
      cases result : tokenize (start + place) chars with
      | error error =>
          rw [result] at read
          exact read
      | ok tokens =>
          rw [result] at read
          have initial : ExprState.initial.Placed text (start + place) (start + place) :=
            ⟨⟨Nat.le_refl _, within.sliceable.start⟩, nofun⟩
          have whole := ExprState.readAll_meets reads initial read (Nat.le_add_right ..) within.stop
          dsimp only
          cases parsed : ExprState.initial.readAll (formatPieces levels)
              (start + place + Text.byteLength chars) tokens with
          | error error =>
              rw [parsed] at whole
              exact whole
          | ok e =>
              rw [parsed] at whole
              have inside : Span.Inside ⟨start + place, start + place + Text.byteLength chars⟩
                  ⟨start, start + Text.byteLength body⟩ :=
                ⟨Nat.le_add_right .., by dsimp only; omega⟩
              exact Expr.Placed.inside whole inside

theorem formatPieces_placed (levels : Nat) : FormatPlaced text (formatPieces levels) := by
  induction levels with
  | zero => exact fun _ _ _ _ => ⟨trivial, trivial⟩
  | succ levels ih =>
      intro body start folded cuts
      have initial : BodyScan.Reads [] body (.text []) := folded
      have each : ∀ piece ∈ splitBody (.text []) 0 body,
          Meets (Piece.Placed text [⟨start, start + Text.byteLength body⟩])
            (SyntaxError.PointsInto text.toList) (readPiece levels body start piece) :=
        fun piece member => readPiece_meets ih
          (splitBody_stands rfl rfl initial piece member) cuts
      have pieces := Meets.mapM each
      rw [formatPieces_succ]
      cases read : (splitBody (.text []) 0 body).mapM (readPiece levels body start) with
      | error error =>
          rw [read] at pieces
          exact pieces
      | ok found =>
          rw [read] at pieces
          cases found with
          | nil => exact ⟨trivial, trivial⟩
          | cons => exact placedPieces_iff.mpr pieces

theorem readFormat_placed : FormatPlaced text readFormat :=
  fun body => formatPieces_placed body.length body

end LiteratePages.Code
