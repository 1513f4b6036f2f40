import LiteratePages.Proofs.Code.Brackets

namespace LiteratePages.Code

/-- Double quotes and line feeds stand in `body` after backslashes only, and no backslash is left
over for the quote at its end. -/
def Unbroken : (escaped : Bool) → (body : List Char) → Prop
  | escaped, [] => escaped = false
  | escaped, c :: rest =>
      (c = '"' ∨ c = '\n' → escaped = true) ∧ Unbroken (!escaped && c == '\\') rest

section Bodies

variable {escaped : Bool} {body rest : List Char}

theorem Unbroken.append (first : Unbroken escaped body) (second : Unbroken false rest) :
    Unbroken escaped (body ++ rest) := by
  induction body generalizing escaped with
  | nil =>
      obtain rfl : escaped = false := first
      exact second
  | cons c body ih => exact ⟨first.1, ih first.2⟩

theorem unbroken_flatMap {α : Type} {items : List α} {write : α → List Char}
    (each : ∀ item ∈ items, Unbroken false (write item)) :
    Unbroken false (items.flatMap write) := by
  induction items with
  | nil => rfl
  | cons item rest ih =>
      obtain ⟨first, later⟩ := List.forall_mem_cons.mp each
      exact first.append (ih later)

theorem unbroken_escaped (c : Char) : Unbroken false ['\\', c] :=
  ⟨by decide, fun _ => rfl, rfl⟩

theorem unbroken_of_notMem (unquoted : '"' ∉ body) (bare : '\n' ∉ body) (plain : '\\' ∉ body) :
    Unbroken false body := by
  induction body with
  | nil => rfl
  | cons c rest ih =>
      have later := ih (List.not_mem_of_not_mem_cons unquoted) (List.not_mem_of_not_mem_cons bare)
        (List.not_mem_of_not_mem_cons plain)
      have other : (c == '\\') = false := by simpa using (List.ne_of_not_mem_cons plain).symm
      refine ⟨?_, by rwa [other]⟩
      rintro (rfl | rfl)
      · exact absurd List.mem_cons_self unquoted
      · exact absurd List.mem_cons_self bare

theorem unescape_cons {c : Char} (other : c ≠ '\\') (rest : List Char) :
    unescape (c :: rest) = c :: unescape rest := by
  cases rest with
  | nil => rfl
  | cons next rest => rw [unescape, if_neg other]

theorem unescape_escaped (c : Char) (rest : List Char) :
    unescape ('\\' :: c :: rest) = unescapeChar c ++ unescape rest := by
  rw [unescape, if_pos rfl]

theorem unescape_of_notMem (plain : '\\' ∉ body) : unescape body = body := by
  induction body with
  | nil => rfl
  | cons c rest ih =>
      rw [unescape_cons (List.ne_of_not_mem_cons plain).symm,
        ih (List.not_mem_of_not_mem_cons plain)]

end Bodies

namespace LexState

variable {escaped format : Bool} {body read : List Char} {before : List Located}
  {base depth place start opened : Nat}

theorem run_body (unbroken : Unbroken escaped body) :
    run base ⟨before, depth, place, .quoted format start '"' opened escaped read⟩ body =
      .ok ⟨before, depth, place + Text.byteLength body,
        .quoted format start '"' opened false (body.reverse ++ read)⟩ := by
  induction body generalizing escaped place read with
  | nil =>
      obtain rfl : escaped = false := unbroken
      rfl
  | cons c rest ih =>
      have stepped : step base
          ⟨before, depth, place, .quoted format start '"' opened escaped read⟩ c =
            .ok ⟨before, depth, place + c.utf8Size,
              .quoted format start '"' opened (!escaped && c == '\\') (c :: read)⟩ := by
        cases escaped with
        | true => rfl
        | false =>
            have unquoted : c ≠ '"' := fun same => Bool.noConfusion (unbroken.1 (.inl same))
            have bare : c ≠ '\n' := fun same => Bool.noConfusion (unbroken.1 (.inr same))
            simp only [step, if_neg unquoted, if_neg bare, Bool.false_eq_true, if_false]
            rfl
      refine foldlM_cons_eq_ok.mpr ⟨_, stepped, ?_⟩
      rw [Text.byteLength_cons, ← Nat.add_assoc, List.reverse_cons, List.append_assoc]
      exact ih unbroken.2

/-- The quote behind a body ends the token. -/
theorem run_body_quote (unbroken : Unbroken false body) :
    run base ⟨before, depth, place, .quoted format start '"' opened false []⟩ (body ++ ['"']) =
      .ok ⟨⟨quotedToken format opened body.reverse, ⟨start, place + Text.byteLength body + 1⟩⟩ ::
        before, depth, place + Text.byteLength body + 1, .between⟩ := by
  refine foldlM_append_eq_ok.mpr ⟨_, run_body unbroken, ?_⟩
  rw [List.append_nil]
  rfl

/-- A string is the token of what its body says. -/
theorem run_string (unbroken : Unbroken false body) :
    run base ⟨before, depth, place, .between⟩ ('"' :: body ++ ['"']) =
      .ok ⟨⟨.string (String.ofList (unescape body)),
          ⟨place, place + 1 + Text.byteLength body + 1⟩⟩ :: before,
        depth, place + 1 + Text.byteLength body + 1, .between⟩ := by
  refine foldlM_cons_eq_ok.mpr ⟨_, rfl, ?_⟩
  have ran : run base ⟨before, depth, place + 1, .quoted false place '"' (place + 1) false []⟩
      (body ++ ['"']) = _ := run_body_quote unbroken
  rw [quotedToken, List.reverse_reverse] at ran
  exact ran

/-- A format string is the token of its body as it is written. -/
theorem run_format (unbroken : Unbroken false body) :
    run base ⟨before, depth, place, .between⟩ ('f' :: '"' :: body ++ ['"']) =
      .ok ⟨⟨.format body (place + 2), ⟨place, place + 2 + Text.byteLength body + 1⟩⟩ :: before,
        depth, place + 2 + Text.byteLength body + 1, .between⟩ := by
  refine foldlM_cons_eq_ok.mpr ⟨_, rfl, foldlM_cons_eq_ok.mpr ⟨_, rfl, ?_⟩⟩
  have ran : run base ⟨before, depth, place + 2, .quoted true place '"' (place + 2) false []⟩
      (body ++ ['"']) = _ := run_body_quote unbroken
  rw [quotedToken, List.reverse_reverse] at ran
  exact ran

end LexState

end LiteratePages.Code
