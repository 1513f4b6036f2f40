import LiteratePages.Proofs.Code.ProgramPlacement

namespace LiteratePages.Code

/-- Every span of a parsed program is forward, lies in the text between characters and inside the
statements, calls and indexes around it; the statements of a body follow one another, and a variable
is mentioned where the text has its name. -/
theorem parse_placed {text : String} {program : Program}
    (accepted : Program.parse text = .ok program) : program.Placed text := by
  have meets := parse_meets text
  rwa [accepted] at meets

theorem parse_placed_nested_formats :
    Program.parse "for x in [f\"é\x7bg(f'ü\x7by\x7d')\x7d\"] \x7b x[n]; z = x \x7d" =
        .ok [.loop "x"
          (.list [.format [.text "é", .code (.call (.variable "g" ⟨15, 16⟩)
            [.format [.text "ü", .code (.variable "y" ⟨22, 23⟩)]] ⟨15, 26⟩)]])
          [.expr (.index (.variable "x" ⟨32, 33⟩) (.variable "n" ⟨34, 35⟩) ⟨32, 36⟩) ⟨32, 36⟩,
            .assign "z" (.variable "x" ⟨42, 43⟩) ⟨38, 43⟩] ⟨0, 45⟩] ∧
      Program.Placed "for x in [f\"é\x7bg(f'ü\x7by\x7d')\x7d\"] \x7b x[n]; z = x \x7d"
        [.loop "x"
          (.list [.format [.text "é", .code (.call (.variable "g" ⟨15, 16⟩)
            [.format [.text "ü", .code (.variable "y" ⟨22, 23⟩)]] ⟨15, 26⟩)]])
          [.expr (.index (.variable "x" ⟨32, 33⟩) (.variable "n" ⟨34, 35⟩) ⟨32, 36⟩) ⟨32, 36⟩,
            .assign "z" (.variable "x" ⟨42, 43⟩) ⟨38, 43⟩] ⟨0, 45⟩] :=
  ⟨rfl, parse_placed rfl⟩

/-- The error is that of a format string without an end, the last character of which takes more than
one byte. -/
def SyntaxError.MidCharacter (text : String) (error : SyntaxError) : Prop :=
  error.cause = .unterminatedString ∧ ∃ quote body last,
    isQuote quote = true ∧ 1 < last.utf8Size ∧
      Span.Cuts text.toList ⟨error.span.start, error.span.stop + 1⟩ ('f' :: quote :: body ++ [last])

/-- What is cut short by one byte is a whole piece when its last character takes one byte. -/
theorem Span.Cuts.dropLast {source piece : List Char} {start stop : Nat} {last : Char}
    (cuts : Span.Cuts source ⟨start, stop + 1⟩ (piece ++ [last])) (narrow : last.utf8Size = 1) :
    Span.Cuts source ⟨start, stop⟩ piece := by
  obtain ⟨before, after, parts, first, ends⟩ := cuts
  refine ⟨before, last :: after, by simp [parts], first, ?_⟩
  simp [narrow] at ends ⊢
  omega

/-- Between the bytes of a character no text can be cut. -/
theorem Span.Cuts.not_isValid {text : String} {piece : List Char} {start stop : Nat} {last : Char}
    (cuts : Span.Cuts text.toList ⟨start, stop + 1⟩ (piece ++ [last])) (wide : 1 < last.utf8Size) :
    ¬ String.Pos.Raw.IsValid text ⟨stop⟩ := by
  intro valid
  obtain ⟨first, second, whole, reached⟩ := String.Pos.Raw.isValid_iff_exists_append.mp valid
  obtain ⟨before, after, parts, _, ends⟩ := cuts
  have size : stop = Text.byteLength first.toList := by
    rw [← utf8ByteSize_ofList, String.ofList_toList]
    exact congrArg String.Pos.Raw.byteIdx reached
  have shorter : first.toList <+: text.toList :=
    ⟨second.toList, by rw [whole, String.toList_append]⟩
  have longer : before ++ piece ++ [last] <+: text.toList := ⟨after, by simp [parts]⟩
  simp only [Text.byteLength_append, Text.byteLength_cons, Text.byteLength_nil] at ends
  rcases List.prefix_or_prefix_of_prefix shorter longer with ⟨rest, within⟩ | ⟨rest, within⟩
  · rcases List.prefix_concat_iff.mp ⟨rest, within⟩ with same | ⟨rest, within⟩
    · have := congrArg Text.byteLength same
      simp only [Text.byteLength_append, Text.byteLength_cons, Text.byteLength_nil] at this
      omega
    · have := congrArg Text.byteLength within
      simp only [Text.byteLength_append] at this
      omega
  · have := congrArg Text.byteLength within
    simp only [Text.byteLength_append, Text.byteLength_cons, Text.byteLength_nil] at this
    omega

/-- What is wrong with a text can be cut out of it, unless it is a format string without an end that
ends in a character of more than one byte. -/
theorem parse_error_sliceable {text : String} {error : SyntaxError}
    (rejected : Program.parse text = .error error) :
    error.span.Sliceable text ↔ ¬ error.MidCharacter text := by
  constructor
  · rintro sliceable ⟨_, quote, body, last, _, wide, cuts⟩
    exact Span.Cuts.not_isValid cuts wide sliceable.stop
  intro whole
  have meets := parse_meets text
  rw [rejected] at meets
  rcases meets with ⟨piece, cuts⟩ | ⟨cause, quote, body, marks, cuts⟩
  · exact cuts.sliceable
  rcases List.eq_nil_or_concat body with rfl | ⟨body, last, rfl⟩
  · have short : Span.Cuts text.toList error.span ['f'] :=
      Span.Cuts.dropLast cuts (utf8Size_of_isQuote marks)
    exact short.sliceable
  · rw [List.concat_eq_append] at cuts
    rcases Nat.lt_or_ge 1 last.utf8Size with wide | narrow
    · exact absurd ⟨cause, quote, body, last, marks, wide, cuts⟩ whole
    · have short : Span.Cuts text.toList error.span ('f' :: quote :: body) :=
        Span.Cuts.dropLast cuts (Nat.le_antisymm narrow last.utf8Size_pos)
      exact short.sliceable

theorem parse_error_sliceable_plain :
    Program.parse "x = \"é" = .error ⟨.unterminatedString, ⟨4, 7⟩⟩ ∧
      (Span.Sliceable "x = \"é" ⟨4, 7⟩ ↔
        ¬ SyntaxError.MidCharacter "x = \"é" ⟨.unterminatedString, ⟨4, 7⟩⟩) :=
  have rejected : Program.parse "x = \"é" = .error ⟨.unterminatedString, ⟨4, 7⟩⟩ := rfl
  ⟨rejected, parse_error_sliceable rejected⟩

/-- The span of a format string without an end may stop inside its last character. -/
theorem parse_error_not_sliceable :
    Program.parse "f\"é" = .error ⟨.unterminatedString, ⟨0, 3⟩⟩ ∧
      ¬ Span.Sliceable "f\"é" ⟨0, 3⟩ :=
  ⟨rfl, fun sliceable => absurd sliceable.stop (by decide)⟩

end LiteratePages.Code
