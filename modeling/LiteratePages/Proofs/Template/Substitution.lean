import LiteratePages.Proofs.Run.Noninterference
import LiteratePages.Proofs.Template.Holes

namespace LiteratePages

/-- What stands in the place of an expression that prints `printed`: all but a final line feed. -/
def StandsFor (shown printed : String) : Prop :=
  printed = shown ++ "\n" ∨ (printed = shown ∧ ¬∃ rest, printed = rest ++ "\n")

/-- What pieces of code leave in the journal, each of which runs in the same scope. -/
def runJournal (executor : Executor) (scope : Scope) (codes : List String) : Journal :=
  codes.flatMap fun code => .ran code :: (executor code scope).journal

/-- What came of filling a text whose expressions hold `codes` and have numbers from `first` on.
Either each of them ran, in a scope made from the data and nothing else, and what it printed stands
between the gaps; or the first that failed is reported with its number, and no later one ran. -/
def Filled (executor : Executor) (origin : String) (data : Metadata) (first : Nat)
    (gaps codes : List String) (rendered : Rendered) : Prop :=
  let execution := fun code => executor code (expressionScope data)
  (∃ shown, List.Forall₂ (fun code text => (execution code).result = .ok () ∧
      StandsFor text (execution code).output) codes shown ∧
    rendered = (.ok (weave gaps shown), runJournal executor (expressionScope data) codes)) ∨
  ∃ before code after error, codes = before ++ code :: after ∧
    (∀ earlier ∈ before, (execution earlier).result = .ok ()) ∧
    (execution code).result = .error error ∧
    rendered = (.error (.expression origin (first + before.length) code error),
      runJournal executor (expressionScope data) (before ++ [code]))

theorem withoutFinalNewline_standsFor (printed : String) :
    StandsFor (withoutFinalNewline printed) printed := by
  unfold withoutFinalNewline Text.dropFinal
  split
  · rename_i final
    left
    have whole := List.dropLast_append_getLast? '\n' final
    rw [← String.ofList_toList (s := printed), ← whole]
    simp [String.ofList_append]
  · rename_i other
    right
    refine ⟨by simp, ?_⟩
    rintro ⟨rest, rfl⟩
    exact other (by simp)

theorem runJournal_cons (executor : Executor) (scope : Scope) (code : String) (rest : List String) :
    runJournal executor scope (code :: rest) =
      .ran code :: (executor code scope).journal ++ runJournal executor scope rest := rfl

theorem filled_fillHoles (executor : Executor) (origin : String) (data : Metadata)
    (after : List Char) (first : Nat) (holes : List Hole) :
    Filled executor origin data first
      (holes.map (fun hole => String.ofList hole.before) ++ [String.ofList after])
      (holes.map fun hole => String.ofList (Text.dedent hole.code))
      (fillHoles executor origin data after first holes) := by
  induction holes generalizing first with
  | nil => exact .inl ⟨[], .nil, by simp [fillHoles, weave, runJournal]⟩
  | cons hole rest ih =>
      cases ran : (executor (String.ofList (Text.dedent hole.code))
          (expressionScope data)).result with
      | error error =>
          refine .inr ⟨[], _, _, error, rfl, by simp, ran, ?_⟩
          simp [fillHoles, evaluateHole, ran, runJournal]
      | ok _ =>
          rcases ih (first + 1) with ⟨shown, all, rendered⟩ |
            ⟨before, code, later, error, codes, fine, failed, rendered⟩
          · refine .inl ⟨_ :: shown, .cons ⟨ran, withoutFinalNewline_standsFor _⟩ all, ?_⟩
            simp [fillHoles, evaluateHole, ran, rendered, weave, runJournal_cons, Except.map]
          · refine .inr ⟨_ :: before, code, later, error, congrArg (_ :: ·) codes,
              List.forall_mem_cons.mpr ⟨ran, fine⟩, failed, ?_⟩
            simp [fillHoles, evaluateHole, ran, rendered, runJournal_cons, Except.map,
              Nat.add_assoc, Nat.add_comm 1]

theorem filled_fill (executor : Executor) (origin text : String) (data : Metadata) :
    Filled executor origin data 0 (gaps text) (expressionCodes text)
      (fill executor origin text data) := by
  rw [gaps_eq, expressionCodes_eq]
  exact filled_fillHoles ..

/-- Rendering a text puts what its expressions print in the place of their bytes. The gaps and the
expressions make up the text; each expression runs with the data alone, what it prints is not looked
at again, and nothing runs after one that fails. An expression finds a value for every key, all of
the data, unless a key has that name, the function that renders templates, and nothing else. -/
theorem renderText_fills_gaps (engine : Engine) (text : String) (data : Metadata) :
    weave (gaps text) (expressionTexts text) = text ∧
      Filled (engine.executor (templateHost engine.render)) "<string>" data 0 (gaps text)
        (expressionCodes text) (engine.renderText text data) ∧
      ∀ name, (expressionScope data).get? name =
        if name = "render_template" then some (.function ⟨.host "render_template", 0⟩)
        else match Entries.get? data name with
          | some value => some (.ofJson value)
          | none => if name = "data" then some (.map (Value.entriesOfJson data)) else none :=
  ⟨weave_expressionTexts text, filled_fill .., expressionScope_get? data⟩

/-- Data that an expression does not name cannot change what it prints. -/
theorem evaluateHole_eq {data other : Metadata} {hole : Hole} (host : Host) (origin : String)
    (index : Nat)
    (agree : ∀ name ∈ Code.mentioned (String.ofList (Text.dedent hole.code)),
      name ≠ dataName ∧ Entries.get? data name = Entries.get? other name) :
    evaluateHole (interpret host) origin data index hole =
      evaluateHole (interpret host) origin other index hole := by
  have made (data : Metadata) : (expressionScope data).made = 1 := by
    unfold expressionScope
    dsimp only
    split <;> rfl
  have bound : ∀ name ∈ Code.mentioned (String.ofList (Text.dedent hole.code)),
      (expressionScope data).get? name = (expressionScope other).get? name := by
    intro name member
    obtain ⟨part, same⟩ := agree name member
    rw [expressionScope_get?, expressionScope_get?, same, if_neg part, if_neg part]
  have same : (expressionScope data).made = (expressionScope other).made := by
    rw [made, made]
  have agrees := (interpret_agrees_of_eq host same bound).1
  unfold evaluateHole
  dsimp only
  rw [agrees.result, agrees.output, agrees.journal]

end LiteratePages
