import LiteratePages.Proofs.Code.Names
import LiteratePages.Proofs.Code.Quoting

namespace LiteratePages.Code

/-- A text that ends here has these tokens and is inside of `depth` brackets. -/
structure LexState.Has (state : LexState) (depth : Nat) (tokens : List Token) : Prop where
  outside : state.scan ≠ .comment
  deep : state.depth = depth
  ended : ∃ settled, state.finish = .ok settled ∧ settled.map Located.token = tokens

/-- The text reads as these tokens wherever no token is under way. -/
def Written (text : List Char) (tokens : List Token) : Prop :=
  ∀ (before : List Located) (depth place : Nat), ∃ state,
    LexState.run 0 ⟨before, depth, place, .between⟩ text = .ok state ∧
      state.Has depth (before.reverse.map Located.token ++ tokens)

/-- A comma, a colon or a closing bracket ends the token under way. -/
theorem LexState.Has.step_mark {state : LexState} {depth : Nat} {tokens : List Token} {c : Char}
    {token : Token} (has : state.Has depth tokens) (marks : c ∈ [',', ':', ']', '\x7d'])
    (found : charToken? c = some token) :
    ∃ before place, state.step 0 c = .ok ⟨before, bracketDepth depth c, place, .between⟩ ∧
      before.reverse.map Located.token = tokens ++ [token] := by
  obtain ⟨outside, rfl, settled, ended, rfl⟩ := has
  have among : c = ',' ∨ c = ':' ∨ c = ']' ∨ c = '\x7d' := by simpa using marks
  have started : ∀ other : LexState, ∃ before place,
      other.start c = .ok ⟨before, bracketDepth other.depth c, place, .between⟩ ∧
        before.reverse.map Located.token = other.tokens.reverse.map Located.token ++ [token] := by
    intro other
    refine ⟨⟨token, ⟨other.place, other.place + c.utf8Size⟩⟩ :: other.tokens,
      other.place + c.utf8Size, ?_, by simp⟩
    rcases among with rfl | rfl | rfl | rfl <;> cases found <;> rfl
  have ends : isQuote c = false ∧ continuesName c = false ∧ c.isDigit = false ∧ c ≠ '.' ∧
      c ≠ '=' := by
    rcases among with rfl | rfl | rfl | rfl <;> decide
  obtain ⟨quote, name, digit, point, equal⟩ := ends
  obtain ⟨before, depth, place, scan⟩ := state
  cases scan with
  | between | word | digits | fraction | relation =>
      cases ended
      simp only [step, quote, name, digit, point, equal, Bool.false_eq_true, false_and, if_false]
      exact started _
  | comment => exact absurd rfl outside
  | _ => cases ended

namespace Written

variable {text more : List Char} {tokens others : List Token}

theorem nil : Written [] [] := by
  intro before depth place
  refine ⟨_, rfl, nofun, rfl, _, rfl, ?_⟩
  rw [List.append_nil]

theorem blank (later : Written text tokens) : Written (' ' :: text) tokens := by
  intro before depth place
  obtain ⟨state, ran, has⟩ := later before depth (place + 1)
  exact ⟨state, foldlM_cons_eq_ok.mpr ⟨_, rfl, ran⟩, has⟩

/-- A word goes on up to what comes behind it. -/
theorem word {first : Char} {rest : List Char} (starts : startsName first = true)
    (continues : ∀ c ∈ rest, continuesName c = true) :
    Written (first :: rest) [wordToken (String.ofList (first :: rest))] := by
  intro before depth place
  have ran : LexState.run 0 ⟨before, depth, place + first.utf8Size, .word place [first]⟩
      (rest ++ []) = _ := LexState.run_word rest [] continues
  rw [List.append_nil] at ran
  refine ⟨_, foldlM_cons_eq_ok.mpr ⟨_, LexState.start_name starts, ran⟩, nofun, rfl, _, rfl, ?_⟩
  simp [LexState.push]

theorem string {body : List Char} (unbroken : Unbroken false body) :
    Written ('"' :: body ++ ['"']) [.string (String.ofList (unescape body))] := by
  intro before depth place
  refine ⟨_, LexState.run_string unbroken, nofun, rfl, _, rfl, ?_⟩
  rw [List.reverse_cons, List.map_append]
  rfl

/-- A comma or a colon stands between two texts. -/
theorem join {c : Char} {token : Token} (first : Written text tokens) (later : Written more others)
    (marks : c ∈ [',', ':']) (found : charToken? c = some token) :
    Written (text ++ c :: more) (tokens ++ token :: others) := by
  intro before depth place
  obtain ⟨state, ran, has⟩ := first before depth place
  have closes : c ∈ [',', ':', ']', '\x7d'] := List.mem_append_left _ marks
  have level : bracketDepth depth c = depth := by
    simp only [List.mem_cons, List.not_mem_nil, or_false] at marks
    rcases marks with rfl | rfl <;> rfl
  obtain ⟨reached, there, stepped, read⟩ := has.step_mark closes found
  rw [level] at stepped
  obtain ⟨after, ranMore, hasMore⟩ := later reached depth there
  rw [read, List.append_assoc, List.append_assoc, List.singleton_append] at hasMore
  exact ⟨after, foldlM_append_eq_ok.mpr ⟨state, ran,
    foldlM_cons_eq_ok.mpr ⟨_, stepped, ranMore⟩⟩, hasMore⟩

/-- Brackets stand around a text. -/
theorem enclosed {opening closing : Char} {first last : Token} (inside : Written text tokens)
    (opens : charToken? opening = some first) (closes : charToken? closing = some last)
    (pair : opening = '[' ∧ closing = ']' ∨ opening = '\x7b' ∧ closing = '\x7d') :
    Written (opening :: text ++ [closing]) (first :: tokens ++ [last]) := by
  intro before depth place
  have begun : LexState.step 0 ⟨before, depth, place, .between⟩ opening =
      .ok ⟨⟨first, ⟨place, place + opening.utf8Size⟩⟩ :: before, bracketDepth depth opening,
        place + opening.utf8Size, .between⟩ := by
    rcases pair with ⟨rfl, _⟩ | ⟨rfl, _⟩ <;> cases opens <;> rfl
  have level : bracketDepth (bracketDepth depth opening) closing = depth := by
    rcases pair with ⟨rfl, rfl⟩ | ⟨rfl, rfl⟩ <;> rfl
  have marks : closing ∈ [',', ':', ']', '\x7d'] := by
    rcases pair with ⟨_, rfl⟩ | ⟨_, rfl⟩ <;> decide
  obtain ⟨state, ran, has⟩ := inside _ (bracketDepth depth opening) (place + opening.utf8Size)
  obtain ⟨reached, there, stepped, read⟩ := has.step_mark marks closes
  rw [level] at stepped
  refine ⟨_, foldlM_cons_eq_ok.mpr ⟨_, begun, foldlM_append_eq_ok.mpr ⟨state, ran,
    foldlM_cons_eq_ok.mpr ⟨_, stepped, rfl⟩⟩⟩, nofun, rfl, _, rfl, ?_⟩
  simp [read]

end Written
end LiteratePages.Code
