import LiteratePages.Proofs.Code.ExpressionRelocation
import LiteratePages.Proofs.Code.LexerPlaces

/-!
How deeply format strings nest. The code in a body is shorter than the body and so are the bodies in
that code, so that a body is read in one way by all readers that allow for its length.
-/
namespace LiteratePages.Code

variable {format other : List Char → Nat → Except SyntaxError (List Piece)} {next : Located}
  {tokens : List Located} {base levels more start place : Nat} {body chars text : List Char}

/-- If `next` is a format string, both readers read it the same way. -/
def SameOn (format other : List Char → Nat → Except SyntaxError (List Piece)) (next : Located) :
    Prop :=
  ∀ body place, next.token = .format body place → format body place = other body place

namespace ExprState

theorem startOperand_congr (same : SameOn format other next) (frames : List Frame) :
    startOperand format frames next = startOperand other frames next := by
  obtain ⟨token, span⟩ := next
  cases token with
  | format body place => simp only [startOperand, same body place rfl]
  | _ => rfl

theorem feed_congr (same : SameOn format other next) (state : ExprState) :
    state.feed format next = state.feed other next := by
  simp only [feed, startOperand_congr same]

theorem readAll_congr (same : ∀ next ∈ tokens, SameOn format other next) (stop : Nat)
    (state : ExprState) : readAll format stop state tokens = readAll other stop state tokens := by
  induction tokens generalizing state with
  | nil => rfl
  | cons next rest ih =>
      obtain ⟨first, later⟩ := List.forall_mem_cons.mp same
      simp only [readAll, feed_congr first, ih later]

end ExprState

theorem length_le_of_format (lexed : tokenize base text = .ok tokens) (member : next ∈ tokens)
    (written : next.token = .format body place) : body.length ≤ text.length := by
  have moved := tokenize_shift 0 base text
  rw [Nat.zero_add] at moved
  rcases outcomes_of_toOption moved with ⟨first, alone, there⟩ | ⟨_, _, _, there⟩
  · rw [there] at lexed
    cases lexed
    obtain ⟨twin, among, rfl⟩ := List.mem_map.mp member
    obtain ⟨piece, _, ⟨before, after, source, _⟩, spells⟩ :=
      (tokens_of_tokenize alone).stand twin among
    obtain ⟨token, span⟩ := twin
    cases token with
    | format inner inside =>
        cases written
        obtain ⟨opening, closing, rfl, _⟩ := spells
        rw [source]
        simp only [List.length_append]
        omega
    | _ => cases written
  · rw [there] at lexed
    cases lexed

/-- How many characters of code have been read. -/
def BodyScan.codeLength : BodyScan → Nat
  | .code _ _ chars => chars.length
  | _ => 0

theorem code_notMem_textPiece {read : List Char} : .code place chars ∉ textPiece read := by
  intro member
  unfold textPiece at member
  split at member
  · cases member
  · cases List.mem_singleton.mp member

/-- One character ends no more code than has been read and adds no more than itself. -/
theorem splitBody_step (scan : BodyScan) (place : Nat) (c : Char) (rest : List Char) :
    ∃ found next, splitBody scan place (c :: rest) =
        found ++ splitBody next (place + c.utf8Size) rest ∧
      next.codeLength ≤ scan.codeLength + 1 ∧
      ∀ opened chars, .code opened chars ∈ found → chars.length ≤ scan.codeLength := by
  cases scan with
  | text chars =>
      simp only [splitBody]
      repeat' split
      · exact ⟨[], _, rfl, Nat.zero_le _, nofun⟩
      · refine ⟨textPiece chars, _, rfl, Nat.zero_le _, fun opened code member => ?_⟩
        exact absurd member code_notMem_textPiece
      · exact ⟨[], _, rfl, Nat.zero_le _, nofun⟩
  | escape chars => exact ⟨[], _, rfl, Nat.zero_le _, nofun⟩
  | code opened depth chars =>
      simp only [splitBody]
      split
      · exact ⟨[], _, rfl, Nat.le_refl _, nofun⟩
      split
      · cases depth with
        | zero =>
            refine ⟨[_], _, rfl, Nat.zero_le _, fun opened code member => ?_⟩
            cases List.mem_singleton.mp member
            exact Nat.le_of_eq List.length_reverse
        | succ depth => exact ⟨[], _, rfl, Nat.le_refl _, nofun⟩
      · exact ⟨[], _, rfl, Nat.le_refl _, nofun⟩

theorem length_lt_of_mem_splitBody {scan : BodyScan} {opened : Nat}
    (member : .code opened chars ∈ splitBody scan place body) :
    chars.length < scan.codeLength + body.length := by
  induction body generalizing scan place with
  | nil =>
      cases scan with
      | text | escape => exact absurd member code_notMem_textPiece
      | code => cases List.mem_singleton.mp member
  | cons c rest ih =>
      obtain ⟨found, next, split, grown, ended⟩ := splitBody_step scan place c rest
      rw [split] at member
      rw [List.length_cons]
      rcases List.mem_append.mp member with here | later
      · have := ended opened chars here
        omega
      · have := ih later
        omega

theorem readPiece_congr {piece : RawPiece} (start : Nat)
    (same : ∀ opened chars, piece = .code opened chars → ∀ inner, inner.length ≤ chars.length →
      ∀ place, formatPieces levels inner place = formatPieces more inner place) :
    readPiece levels body start piece = readPiece more body start piece := by
  cases piece with
  | text | unclosed => rfl
  | code opened chars =>
      simp only [readPiece]
      cases lexed : tokenize (start + opened) chars with
      | error error => rfl
      | ok tokens =>
          have alike : ∀ next ∈ tokens, SameOn (formatPieces levels) (formatPieces more) next :=
            fun next member inner place written =>
              same opened chars rfl inner (length_le_of_format lexed member written) place
          simp only [ExprState.readAll_congr alike]

/-- Readers that allow for the length of a body read it the same way. -/
theorem formatPieces_congr (enough : body.length ≤ levels) (also : body.length ≤ more)
    (start : Nat) : formatPieces levels body start = formatPieces more body start := by
  induction levels generalizing more body start with
  | zero =>
      obtain rfl := List.length_eq_zero_iff.mp (Nat.le_zero.mp enough)
      cases more <;> rfl
  | succ levels ih =>
      cases more with
      | zero =>
          obtain rfl := List.length_eq_zero_iff.mp (Nat.le_zero.mp also)
          rfl
      | succ more =>
          have same : ∀ piece ∈ splitBody (.text []) 0 body,
              readPiece levels body start piece = readPiece more body start piece := by
            rintro piece member
            refine readPiece_congr start ?_
            rintro opened chars rfl inner within place
            have shorter : chars.length < 0 + body.length := length_lt_of_mem_splitBody member
            exact ih (by omega) (by omega) place
          rw [formatPieces_succ, formatPieces_succ, mapM_congr same]

/-- Levels beyond the length of a body change nothing. -/
theorem formatPieces_eq_readFormat (enough : body.length ≤ levels) (start : Nat) :
    formatPieces levels body start = readFormat body start :=
  formatPieces_congr enough (Nat.le_refl _) start

end LiteratePages.Code
