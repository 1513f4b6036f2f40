import LiteratePages.Code.Lexer
import LiteratePages.Proofs.Agreement

namespace LiteratePages.Code

def Token.depthAfter (depth : Nat) : Token → Nat
  | .openParen | .openBracket => depth + 1
  | .closeParen | .closeBracket => depth - 1
  | _ => depth

/-- How many brackets are open after some tokens, when `depth` are open before. -/
def openBrackets (depth : Nat) (tokens : List Located) : Nat :=
  tokens.foldl (fun depth next => next.token.depthAfter depth) depth

theorem openBrackets_concat (depth : Nat) (tokens : List Located) (next : Located) :
    openBrackets depth (tokens ++ [next]) = next.token.depthAfter (openBrackets depth tokens) := by
  rw [openBrackets, List.foldl_append]
  rfl

/-- A token that is neither a round nor a square bracket. -/
def Token.Plain (token : Token) : Prop := ∀ depth, token.depthAfter depth = depth

theorem plain_wordToken (text : String) : (wordToken text).Plain := by
  intro depth
  unfold wordToken
  split <;> rfl

theorem plain_relationToken (first : Char) (withEqual : Bool) :
    (relationToken first withEqual).Plain := by
  intro depth
  unfold relationToken
  repeat' split
  all_goals rfl

theorem plain_quotedToken (format : Bool) (opened : Nat) (body : List Char) :
    (LexState.quotedToken format opened body).Plain := by
  intro depth
  cases format <;> rfl

theorem depthAfter_charToken? {c : Char} {token : Token} (found : charToken? c = some token)
    (depth : Nat) : token.depthAfter depth = bracketDepth depth c := by
  unfold charToken? at found
  split at found <;> cases found <;> rfl

/-- Where the token under way starts. -/
def Scan.start? : Scan → Option Nat
  | .between | .comment => none
  | .word start _ | .digits start _ | .point start _ | .fraction start _ _ | .relation start _
  | .pair start _ | .quoted _ start _ _ _ _ => some start

namespace LexState

variable {state after : LexState} {base : Nat} {c : Char}

/-- The same state inside of `depth` brackets. -/
def inside (state : LexState) (depth : Nat) : LexState := { state with depth := depth }

/-- With no token under way, a character is passed over, starts a comment or a token, or is a token
of its own. -/
inductive Begins (state : LexState) (c : Char) : LexState → Prop where
  | blank (blank : c = ' ' ∨ c = '\t' ∨ c = '\r') : Begins state c (state.advance c .between)
  | newline (newline : c = '\n') (within : state.depth ≠ 0) :
      Begins state c (state.advance c .between)
  | comment (sign : c = '#') : Begins state c (state.advance c .comment)
  | token {scan : Scan} (starts : scan.start? = some state.place)
      (anywhere : ∀ depth, (state.inside depth).start c =
        .ok ((state.inside depth).advance c scan)) :
    Begins state c (state.advance c scan)
  | whole {token : Token} (known : c = '\n' ∧ token = .newline ∨ charToken? c = some token)
      (alone : tokenize 0 [c] = .ok [⟨token, ⟨0, c.utf8Size⟩⟩]) :
    Begins state c
      { state.close c token state.place with depth := token.depthAfter state.depth }

theorem begins_of_start (read : state.start c = .ok after) : state.Begins c after := by
  obtain ⟨tokens, depth, place, scan⟩ := state
  unfold LexState.start at read
  dsimp only at read
  split at read
  · rename_i blank
    cases read
    exact .blank blank
  split at read
  · rename_i newline
    split at read
    · rename_i outside
      cases read
      subst newline outside
      exact .whole (.inl ⟨rfl, rfl⟩) rfl
    · rename_i within
      cases read
      exact .newline newline within
  split at read
  · rename_i sign
    cases read
    exact .comment sign
  repeat' split at read
  case h_1 token found =>
      cases read
      have begun : (initial 0).start c = .ok
          { (initial 0).close c token 0 with depth := bracketDepth 0 c } := by
        simp [LexState.start, initial, *]
      rw [← depthAfter_charToken? found]
      refine .whole (.inr found) (bind_eq_ok.mpr ⟨_, foldlM_cons_eq_ok.mpr ⟨_, begun, rfl⟩, ?_⟩)
      simp [LexState.finish, LexState.close, LexState.push, LexState.advance, initial]
  case h_2 => cases read
  all_goals
    cases read
    exact .token rfl fun _ => by simp [LexState.start, inside, *]

/-- What a character does to the token under way: it is another of its characters or the last one,
whatever the depth, or it comes behind it. With no token under way it is part of a comment, or it
may start a token. -/
inductive Takes (base : Nat) (state : LexState) (c : Char) : LexState → Prop where
  | comment (within : state.scan = .comment) (same : c ≠ '\n') :
      Takes base state c (state.advance c .comment)
  | first {after : LexState} (idle : state.scan.start? = none)
      (ends : state.scan = .comment → c = '\n') (started : state.start c = .ok after) :
      Takes base state c after
  | more {start : Nat} {scan : Scan} (under : state.scan.start? = some start)
      (same : scan.start? = some start)
      (anywhere : ∀ depth, (state.inside depth).step base c =
        .ok ((state.inside depth).advance c scan)) :
      Takes base state c (state.advance c scan)
  | last {token : Token} {start : Nat} (plain : token.Plain)
      (under : state.scan.start? = some start)
      (anywhere : ∀ depth, (state.inside depth).step base c =
        .ok ((state.inside depth).close c token start)) :
      Takes base state c (state.close c token start)
  | behind {token : Token} {start : Nat} {after : LexState} (plain : token.Plain)
      (under : state.scan.start? = some start)
      (ended : state.finish = .ok (state.push token start).tokens.reverse)
      (started : (state.push token start).start c = .ok after) : Takes base state c after

theorem takes_of_step (read : state.step base c = .ok after) : state.Takes base c after := by
  obtain ⟨tokens, depth, place, scan⟩ := state
  unfold LexState.step at read
  cases scan with
  | between => exact .first rfl nofun read
  | comment =>
      dsimp only at read
      split at read
      · rename_i newline
        exact .first rfl (fun _ => newline) read
      · rename_i other
        cases read
        exact .comment rfl other
  | word start chars =>
      dsimp only at read
      repeat' split at read
      · cases read
        exact .more rfl rfl fun _ => by simp [LexState.step, inside, *]
      · cases read
        exact .more rfl rfl fun _ => by simp [LexState.step, inside, *]
      · exact .behind (plain_wordToken _) rfl rfl read
  | digits start whole =>
      dsimp only at read
      repeat' split at read
      · cases read
        exact .more rfl rfl fun _ => by simp [LexState.step, inside, *]
      · cases read
        exact .more rfl rfl fun _ => by simp [LexState.step, inside, *]
      · exact .behind (fun _ => rfl) rfl rfl read
  | point start whole =>
      dsimp only at read
      split at read
      · cases read
        exact .more rfl rfl fun _ => by simp [LexState.step, inside, *]
      · cases read
  | fraction start whole decimals =>
      dsimp only at read
      split at read
      · cases read
        exact .more rfl rfl fun _ => by simp [LexState.step, inside, *]
      · exact .behind (fun _ => rfl) rfl rfl read
  | relation start first =>
      dsimp only at read
      split at read
      · cases read
        exact .last (plain_relationToken first true) rfl fun _ => by simp [LexState.step, inside, *]
      · exact .behind (plain_relationToken first false) rfl rfl read
  | pair start first =>
      dsimp only at read
      split at read
      · cases read
        exact .last (fun _ => rfl) rfl fun _ => by simp [LexState.step, inside, *]
      · cases read
  | quoted format start quote opened escaped body =>
      dsimp only at read
      repeat' split at read
      · cases read
        exact .more rfl rfl fun _ => by simp [LexState.step, inside, *]
      · cases read
        exact .last (plain_quotedToken format opened body) rfl fun _ => by
          simp [LexState.step, inside, *]
      · cases read
      · cases read
        exact .more rfl rfl fun _ => by simp [LexState.step, inside, *]

/-- The depth of a state is that of its tokens. -/
def Counted (state : LexState) : Prop := state.depth = openBrackets 0 state.tokens.reverse

theorem Counted.push (counted : state.Counted) {token : Token} (plain : token.Plain) (start : Nat) :
    (state.push token start).Counted := by
  unfold Counted at *
  simp only [LexState.push, List.reverse_cons]
  rw [openBrackets_concat, ← counted, plain]

theorem Counted.advance (counted : state.Counted) (c : Char) (scan : Scan) :
    (state.advance c scan).Counted := counted

theorem Counted.start (counted : state.Counted) (read : state.start c = .ok after) :
    after.Counted := by
  cases begins_of_start read with
  | blank | newline | comment | token => exact counted.advance c _
  | whole =>
      unfold Counted at *
      simp only [close, LexState.advance, LexState.push, List.reverse_cons]
      rw [openBrackets_concat, ← counted]

theorem Counted.step (counted : state.Counted) (read : state.step base c = .ok after) :
    after.Counted := by
  cases takes_of_step read with
  | comment | more => exact counted.advance c _
  | first idle ends started => exact counted.start started
  | last plain under => exact (counted.advance c .between).push plain _
  | behind plain under ended started => exact (counted.push plain _).start started

theorem Counted.run (counted : state.Counted) {text : List Char}
    (read : LexState.run base state text = .ok after) : after.Counted := by
  induction text generalizing state with
  | nil =>
      cases read
      exact counted
  | cons c rest ih =>
      obtain ⟨next, stepped, rest⟩ := foldlM_cons_eq_ok.mp read
      exact ih (counted.step stepped) rest

theorem Counted.finish (counted : state.Counted) {tokens : List Located}
    (read : state.finish = .ok tokens) : state.depth = openBrackets 0 tokens := by
  have pushed : ∀ token start, token.Plain →
      state.depth = openBrackets 0 (state.push token start).tokens.reverse :=
    fun token start plain => counted.push plain start
  obtain ⟨before, depth, place, scan⟩ := state
  cases scan with
  | between | comment =>
      cases read
      exact counted
  | word start chars =>
      cases read
      exact pushed _ start (plain_wordToken _)
  | digits start whole =>
      cases read
      exact pushed _ start fun _ => rfl
  | fraction start whole decimals =>
      cases read
      exact pushed _ start fun _ => rfl
  | relation start first =>
      cases read
      exact pushed _ start (plain_relationToken first false)
  | point | pair | quoted => cases read

theorem start_place (read : state.start c = .ok after) :
    after.place = state.place + c.utf8Size := by
  cases begins_of_start read <;> rfl

theorem step_place (read : state.step base c = .ok after) :
    after.place = state.place + c.utf8Size := by
  cases takes_of_step read with
  | comment | more | last => rfl
  | first idle ends started => exact start_place started
  | behind plain under ended started =>
      have moved := start_place started
      exact moved

theorem run_place {text : List Char} (read : run base state text = .ok after) :
    after.place = state.place + Text.byteLength text := by
  induction text generalizing state with
  | nil =>
      cases read
      rfl
  | cons c rest ih =>
      obtain ⟨next, stepped, rest⟩ := foldlM_cons_eq_ok.mp read
      rw [ih rest, step_place stepped, Text.byteLength_cons, Nat.add_assoc]

end LexState

end LiteratePages.Code
