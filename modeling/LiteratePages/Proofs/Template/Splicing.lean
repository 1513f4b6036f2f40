import LiteratePages.Proofs.Code.Names
import LiteratePages.Proofs.Template.Inclusion
import LiteratePages.Proofs.Text.Lines

namespace LiteratePages

open Code (IsName keywords printing)

variable {name : String} {data : Metadata} {value : Json}

theorem interpret_printing (host : Host) {scope : Scope} {shown : Value}
    (identifier : IsName name) (free : name ∉ keywords) (unbound : scope.get? "print" = none)
    (bound : scope.get? name = some shown) :
    interpret host (printing name) scope =
      ⟨.ok (), ⟨scope.bindings, scope.made + 1⟩, shown.display ++ "\n", []⟩ := by
  have admitted : ∀ depth, depth ≤ 2 → (Code.Setting.mk (some maxDepth) host).Admits depth := by
    rintro depth low limit ⟨⟩
    exact Nat.le_trans low (by decide)
  have argument : Code.Expr.eval _ 2 _ ⟨⟨scope.bindings, scope.made + 1⟩, "", []⟩ = _ :=
    Code.Expr.eval_bound (admitted 2 (by decide)) bound ⟨6, 6 + Text.byteLength name.toList⟩
  have printed : Code.Expr.eval _ 1 _ ⟨scope, "", []⟩ = _ :=
    Code.Expr.eval_print (admitted 2 (by decide)) unbound argument ⟨0, 5⟩
      ⟨0, 6 + Text.byteLength name.toList + 1⟩
  rw [interpret_eq_ofRun (Code.parse_printing identifier free),
    Code.Program.run_expr (admitted 0 (by decide)), printed]
  rfl

/-- What the code of an expression that shows a name holds is that code after one blank. -/
theorem dedent_printing (identifier : IsName name) :
    Text.dedent (' ' :: (printing name).toList) = (printing name).toList := by
  have bare : Text.Bare (' ' :: (printing name).toList) := by
    refine List.not_mem_cons_of_ne_of_not_mem (by decide) ?_
    exact Code.notMem_printing identifier (by decide +kernel) (by decide +kernel)
  have starts : (printing name).toList = 'p' :: ("rint(" ++ name ++ ") ").toList := by
    simp [printing]
  rw [starts] at bare ⊢
  have blank : Text.isBlank ' ' = true := by decide
  have letter : Text.isBlank 'p' = false := by decide
  rw [Text.dedent_of_bare bare (by simp [Text.allBlank, letter])]
  simp [Text.trimStart, blank, letter]

theorem evaluateHole_printing (host : Host) (origin : String) (index : Nat) (before : List Char)
    (identifier : IsName name) (free : name ∉ keywords) (other : name ≠ renderTemplateName)
    (bound : Entries.get? data name = some value) (unshadowed : Entries.get? data "print" = none) :
    evaluateHole (interpret host) origin data index ⟨before, ' ' :: (printing name).toList⟩ =
      (.ok (Value.ofJson value).display, [.ran (printing name)]) := by
  have unbound : (expressionScope data).get? "print" = none := by
    rw [expressionScope_get?, if_neg (by decide), unshadowed]
    rfl
  have found : (expressionScope data).get? name = some (.ofJson value) := by
    rw [expressionScope_get?, if_neg other, bound]
  have ran := interpret_printing host identifier free unbound found
  unfold evaluateHole
  dsimp only
  rw [dedent_printing identifier, String.ofList_toList, ran]
  simp only [withoutFinalNewline_append]

/-- What stands under a key is put in as it is, between what stands around the expression: nothing
in it is escaped, left out or looked at again. -/
theorem renderText_splices_datum (files : Texts) (literateExtension : String) (maxNesting : Nat)
    {before after : String} (identifier : IsName name) (free : name ∉ keywords)
    (other : name ≠ renderTemplateName) (bound : Entries.get? data name = some value)
    (unshadowed : Entries.get? data "print" = none)
    (unopened : ¬ openingPair <:+: before.toList) (ended : before.toList.getLast? ≠ some '\x7b')
    (others : expressionRanges after = []) :
    let engine : Engine := ⟨files, literateExtension, maxNesting, interpret⟩
    engine.renderText (before ++ ("\x7b\x7b print(" ++ name ++ ") \x7d\x7d") ++ after) data =
        (.ok (before ++ (Value.ofJson value).display ++ after), [.ran (printing name)]) ∧
      ∀ text, value = .string text → (Value.ofJson value).display = text := by
  intro engine
  have written : ("\x7b\x7b print(" ++ name ++ ") \x7d\x7d").toList =
      openingPair ++ (' ' :: (printing name).toList) ++ closingPair := by
    simp [printing, openingPair, closingPair]
  have unclosed : '\x7d' ∉ ' ' :: (printing name).toList := by
    refine List.not_mem_cons_of_ne_of_not_mem (by decide) ?_
    exact Code.notMem_printing identifier (by decide +kernel) (by decide +kernel)
  have filled := fill_hole (interpret (templateHost engine.render)) "<string>" data written
    (List.cons_ne_nil _ _) unclosed unopened ended others
  rw [evaluateHole_printing _ _ _ _ identifier free other bound unshadowed] at filled
  refine ⟨filled, ?_⟩
  rintro text rfl
  rfl

/-- The value looks like an expression, and ends in line feeds. -/
theorem renderText_splices_datum_braces :
    let engine : Engine := ⟨.none, "lit", 1, interpret⟩
    let shown := "\x7b\x7b \"é\\\x07\" \x7d\x7d\n\n"
    engine.renderText
        ("a \x7b " ++ ("\x7b\x7b print(" ++ "_2" ++ ") \x7d\x7d") ++ "\x7d \x7b\x7b")
        [("_2", .string shown)] =
      (.ok ("a \x7b " ++ shown ++ "\x7d \x7b\x7b"), [.ran (printing "_2")]) := by
  intro engine shown
  have digit : Text.isAlphanumeric '2' = true := Text.isAlphanumeric_of_isAlphanum (by decide)
  have identifier : IsName "_2" :=
    ⟨'_', ['2'], by decide +kernel, .inr rfl, List.forall_mem_singleton.mpr (.inl digit)⟩
  have other : "_2" ≠ renderTemplateName := by decide
  have bound : Entries.get? [("_2", Json.string shown)] "_2" = some (.string shown) := rfl
  have unshadowed : Entries.get? [("_2", Json.string shown)] "print" = none := rfl
  have unopened : ¬ openingPair <:+: "a \x7b ".toList := by decide +kernel
  have ended : "a \x7b ".toList.getLast? ≠ some '\x7b' := by decide +kernel
  have others : expressionRanges "\x7d \x7b\x7b" = [] := by decide +kernel
  exact (renderText_splices_datum .none "lit" 1 identifier (by decide) other bound unshadowed
    unopened ended others).1

end LiteratePages
