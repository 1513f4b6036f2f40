import LiteratePages.Code.Lexer
import LiteratePages.Proofs.Agreement
import LiteratePages.Proofs.Code.Relocation

namespace LiteratePages.Code

variable {move : Nat → Nat}

theorem wordToken_relocate (text : String) : (wordToken text).relocate move = wordToken text := by
  unfold wordToken
  split <;> rfl

theorem relationToken_relocate (first : Char) (withEqual : Bool) :
    (relationToken first withEqual).relocate move = relationToken first withEqual := by
  unfold relationToken
  repeat' split
  all_goals rfl

theorem charToken?_relocate {c : Char} {token : Token} (found : charToken? c = some token) :
    token.relocate move = token := by
  unfold charToken? at found
  split at found <;> cases found <;> rfl

def Scan.relocate (move : Nat → Nat) : Scan → Scan
  | .between => .between
  | .comment => .comment
  | .word start chars => .word (move start) chars
  | .digits start whole => .digits (move start) whole
  | .point start whole => .point (move start) whole
  | .fraction start whole decimals => .fraction (move start) whole decimals
  | .relation start first => .relation (move start) first
  | .pair start first => .pair (move start) first
  | .quoted format start quote opened escaped body =>
      .quoted format (move start) quote (move opened) escaped body

namespace LexState

/-- The state after tokens of earlier text that ended `bytes` bytes into the whole text. -/
def embed (bytes : Nat) (before : List Located) (state : LexState) : LexState :=
  ⟨state.tokens.map (Located.relocate (· + bytes)) ++ before, state.depth, state.place + bytes,
    state.scan.relocate (· + bytes)⟩

variable {bytes base other : Nat} {before : List Located}

@[simp] theorem embed_advance (state : LexState) (c : Char) (scan : Scan) :
    (state.advance c scan).embed bytes before =
      (state.embed bytes before).advance c (scan.relocate (· + bytes)) := by
  simp only [advance, embed, Nat.add_right_comm]

@[simp] theorem embed_push (state : LexState) (token : Token) (start : Nat) :
    (state.push token start).embed bytes before =
      (state.embed bytes before).push (token.relocate (· + bytes)) (start + bytes) := rfl

@[simp] theorem embed_close (state : LexState) (c : Char) (token : Token) (start : Nat) :
    (state.close c token start).embed bytes before =
      (state.embed bytes before).close c (token.relocate (· + bytes)) (start + bytes) := by
  rw [close, embed_push, embed_advance]
  rfl

theorem start_embed (state : LexState) (c : Char) :
    ((state.embed bytes before).start c).toOption =
      (state.start c).toOption.map (embed bytes before) := by
  have place : (state.embed bytes before).place = state.place + bytes := rfl
  have depth : (state.embed bytes before).depth = state.depth := rfl
  simp only [start, place, depth]
  split
  · simp [Except.toOption, Scan.relocate]
  split
  · split
    · simp [Except.toOption, Token.relocate]
    · simp [Except.toOption, Scan.relocate]
  split
  · simp [Except.toOption, Scan.relocate]
  split
  · simp [Except.toOption, Scan.relocate, Nat.add_right_comm]
  split
  · simp [Except.toOption, Scan.relocate]
  split
  · simp [Except.toOption, Scan.relocate]
  split
  · simp [Except.toOption, Scan.relocate]
  split
  · simp [Except.toOption, Scan.relocate]
  cases found : charToken? c with
  | none => rfl
  | some token =>
      have closed : (state.close c token state.place).embed bytes before = _ := embed_close ..
      rw [charToken?_relocate found] at closed
      simp only [Except.toOption, Option.map_some, ← closed]
      rfl

theorem step_embed (state : LexState) (c : Char) :
    ((state.embed bytes before).step other c).toOption =
      (state.step base c).toOption.map (embed bytes before) := by
  have scan : (state.embed bytes before).scan = state.scan.relocate (· + bytes) := rfl
  have place : (state.embed bytes before).place = state.place + bytes := rfl
  unfold step
  rw [scan]
  cases state.scan with
  | between => exact start_embed state c
  | comment =>
      simp only [Scan.relocate]
      split
      · exact start_embed state c
      · simp [Except.toOption, Scan.relocate]
  | word start chars =>
      simp only [Scan.relocate]
      split
      · simp [Except.toOption, Scan.relocate, place, Nat.add_right_comm]
      split
      · simp [Except.toOption, Scan.relocate]
      · rw [← start_embed, embed_push, wordToken_relocate]
  | digits start whole =>
      simp only [Scan.relocate]
      split
      · simp [Except.toOption, Scan.relocate]
      split
      · simp [Except.toOption, Scan.relocate]
      · rw [← start_embed, embed_push]
        rfl
  | point start whole =>
      simp only [Scan.relocate]
      split
      · simp [Except.toOption, Scan.relocate]
      · rfl
  | fraction start whole fraction =>
      simp only [Scan.relocate]
      split
      · simp [Except.toOption, Scan.relocate]
      · rw [← start_embed, embed_push]
        rfl
  | relation start first =>
      simp only [Scan.relocate]
      split
      · simp [Except.toOption, relationToken_relocate]
      · rw [← start_embed, embed_push, relationToken_relocate]
  | pair start first =>
      simp only [Scan.relocate]
      split
      · simp [Except.toOption]
        rfl
      · rfl
  | quoted format start quote opened escaped body =>
      simp only [Scan.relocate]
      split
      · simp [Except.toOption, Scan.relocate]
      split
      · cases format <;> simp [Except.toOption, quotedToken, Token.relocate]
      split
      · rfl
      · simp [Except.toOption, Scan.relocate]

theorem run_embed (state : LexState) (text : List Char) :
    (run other (state.embed bytes before) text).toOption =
      (run base state text).toOption.map (embed bytes before) := by
  have agree : ∀ s c, ((embed bytes before s).step other (id c)).toOption =
      (s.step base c).toOption.map (embed bytes before) := step_embed
  have folded := foldlM_toOption _ id agree text state
  rwa [List.map_id] at folded

theorem finish_embed (bytes : Nat) (before : List Located) (state : LexState) :
    (state.embed bytes before).finish.toOption = state.finish.toOption.map fun tokens =>
      before.reverse ++ tokens.map (Located.relocate (· + bytes)) := by
  have scan : (state.embed bytes before).scan = state.scan.relocate (· + bytes) := rfl
  have pushed : ∀ token start, token.relocate (· + bytes) = token →
      (((state.embed bytes before).push token (start + bytes)).tokens).reverse =
        before.reverse ++ (state.push token start).tokens.reverse.map
          (Located.relocate (· + bytes)) := by
    intro token start same
    have embedded : (state.push token start).embed bytes before = _ := embed_push ..
    rw [same] at embedded
    rw [← embedded, embed, List.reverse_append, List.map_reverse]
  unfold finish
  rw [scan]
  cases state.scan with
  | word start chars => exact congrArg some (pushed _ start (wordToken_relocate _))
  | digits start whole => exact congrArg some (pushed _ start rfl)
  | fraction start whole fraction => exact congrArg some (pushed _ start rfl)
  | relation start first => exact congrArg some (pushed _ start (relationToken_relocate _ _))
  | _ => simp [Scan.relocate, Except.toOption, embed]

end LexState

/-- The tokens of a text do not depend on what stands before it, but their places do. -/
theorem tokenize_shift (base bytes : Nat) (text : List Char) :
    (tokenize (base + bytes) text).toOption =
      (tokenize base text).toOption.map (List.map (Located.relocate (· + bytes))) := by
  have agree :
      (LexState.run (base + bytes) ((LexState.initial base).embed bytes []) text).toOption =
      (LexState.run base (.initial base) text).toOption.map (LexState.embed bytes []) :=
    LexState.run_embed _ text
  exact bind_toOption agree (LexState.finish_embed bytes [])

end LiteratePages.Code
