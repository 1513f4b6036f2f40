import LiteratePages.Proofs.Code.FormatLevels
import LiteratePages.Proofs.Code.LoneExpressions
import LiteratePages.Proofs.Code.Quoting

namespace LiteratePages.Code

/-- How many braces are open behind a text when `depth` are open before it. There is no answer where
one is closed that is not open. -/
def openBraces? : (depth : Nat) → List Char → Option Nat
  | depth, [] => some depth
  | depth, c :: rest =>
      if c = '\x7b' then openBraces? (depth + 1) rest
      else if c = '\x7d' then
        match depth with
        | 0 => none
        | depth + 1 => openBraces? depth rest
      else openBraces? depth rest

/-- Code that is one expression and can stand between braces in a format string. -/
structure Interpolation where
  text : String
  value : Expr
  span : Span
  alone : Program.parse text = .ok [.expr value span]
  plain : ∀ c ∈ ['\\', '"', ';', '\n'], c ∉ text.toList
  balanced : openBraces? 0 text.toList = some 0

/-- A part of a format string that is to be written. -/
inductive FormatPart where
  | literal (text : String)
  | code (part : Interpolation)

def escapeText (c : Char) : List Char :=
  if c = '\n' then ['\\', 'n']
  else if c ∈ ['\\', '"', '\x7b', '\x7d'] then ['\\', c]
  else [c]

def FormatPart.written : FormatPart → List Char
  | .literal text => text.toList.flatMap escapeText
  | .code part => '\x7b' :: part.text.toList ++ ['\x7d']

def writtenParts (parts : List FormatPart) : List Char := parts.flatMap FormatPart.written

theorem writtenParts_cons (part : FormatPart) (rest : List FormatPart) :
    writtenParts (part :: rest) = part.written ++ writtenParts rest := List.flatMap_cons

/-- A format string in double quotes. -/
def formatSource (parts : List FormatPart) : String :=
  String.ofList ('f' :: '"' :: writtenParts parts ++ ['"'])

/-- What a part is that is written at byte `place`. Its code stands behind a brace. -/
def FormatPart.piece (place : Nat) : FormatPart → Piece
  | .literal text => .text text
  | .code part => .code (part.value.relocate (· + (place + 1)))

def placedPieces (place : Nat) : List FormatPart → List Piece
  | [] => []
  | part :: rest => part.piece place :: placedPieces (place + Text.byteLength part.written) rest

/-- Joins texts that follow one another and drops those that are empty. -/
def mergeTexts : List Piece → List Piece
  | [] => []
  | .code e :: rest => .code e :: mergeTexts rest
  | .text value :: rest =>
      match mergeTexts rest with
      | .text more :: others => .text (value ++ more) :: others
      | others => if value = "" then others else .text value :: others

/-- Where nothing is left, one empty text is. -/
def mergedPieces (pieces : List Piece) : List Piece :=
  match mergeTexts pieces with
  | [] => [.text ""]
  | merged => merged

section Merging

variable (value more : String) (e : Expr) (rest : List Piece)

theorem mergeTexts_empty : mergeTexts (.text "" :: rest) = mergeTexts rest := by
  rw [mergeTexts]
  split
  · rename_i more others merged
    rw [merged, String.empty_append]
  · rw [if_pos rfl]

theorem mergeTexts_text_text :
    mergeTexts (.text value :: .text more :: rest) =
      mergeTexts (.text (value ++ more) :: rest) := by
  have joined : value ++ more = "" ↔ value = "" ∧ more = "" := by
    simp [String.append_eq_empty_iff]
  by_cases empty : more = ""
  · rw [empty, String.append_empty, mergeTexts, mergeTexts_empty, ← mergeTexts]
  · cases merged : mergeTexts rest with
    | nil => simp [mergeTexts, merged, empty, joined]
    | cons first others =>
        cases first with
        | text last => simp [mergeTexts, merged, String.append_assoc]
        | code e => simp [mergeTexts, merged, empty, joined]

theorem mergeTexts_text_code :
    mergeTexts (.text value :: .code e :: rest) =
      mergeTexts [.text value] ++ .code e :: mergeTexts rest := by
  by_cases empty : value = "" <;> simp [mergeTexts, empty]

end Merging

theorem unbroken_escapeText (c : Char) : Unbroken false (escapeText c) := by
  unfold escapeText
  split
  · exact unbroken_escaped 'n'
  split
  · exact unbroken_escaped c
  · rename_i bare plain
    simp only [List.mem_cons, not_or] at plain
    exact unbroken_of_notMem (by simpa using Ne.symm plain.2.1) (by simpa using Ne.symm bare)
      (by simpa using Ne.symm plain.1)

theorem FormatPart.unbroken_written (part : FormatPart) : Unbroken false part.written := by
  cases part with
  | literal text => exact unbroken_flatMap fun c _ => unbroken_escapeText c
  | code part =>
      refine unbroken_of_notMem ?_ ?_ ?_
      · have unquoted := part.plain '"' (by decide)
        simpa [written] using unquoted
      · have bare := part.plain '\n' (by decide)
        simpa [written] using bare
      · have plain := part.plain '\\' (by decide)
        simpa [written] using plain

theorem unbroken_writtenParts (parts : List FormatPart) : Unbroken false (writtenParts parts) :=
  unbroken_flatMap fun part _ => part.unbroken_written

theorem splitBody_escapeText (c : Char) (read rest : List Char) (place : Nat) :
    splitBody (.text read) place (escapeText c ++ rest) =
      splitBody (.text (c :: read)) (place + Text.byteLength (escapeText c)) rest := by
  unfold escapeText
  split
  · rename_i newline
    subst newline
    rfl
  split
  · rename_i special
    simp only [List.mem_cons, List.not_mem_nil, or_false] at special
    rcases special with rfl | rfl | rfl | rfl <;> rfl
  · rename_i plain
    simp only [List.mem_cons, not_or] at plain
    simp only [List.singleton_append, splitBody, if_neg plain.1, if_neg plain.2.2.1]
    rfl

theorem splitBody_literal (text read rest : List Char) (place : Nat) :
    splitBody (.text read) place (text.flatMap escapeText ++ rest) =
      splitBody (.text (text.reverse ++ read))
        (place + Text.byteLength (text.flatMap escapeText)) rest := by
  induction text generalizing read place with
  | nil => rfl
  | cons c text ih =>
      rw [List.flatMap_cons, List.append_assoc, splitBody_escapeText, ih, List.reverse_cons,
        List.append_assoc, Text.byteLength_append, Nat.add_assoc]
      rfl

theorem splitBody_code {opened depth left : Nat} {text : List Char}
    (counted : openBraces? depth text = some left) (read rest : List Char) (place : Nat) :
    splitBody (.code opened depth read) place (text ++ rest) =
      splitBody (.code opened left (text.reverse ++ read)) (place + Text.byteLength text) rest := by
  induction text generalizing depth read place with
  | nil =>
      cases counted
      rfl
  | cons c text ih =>
      rw [List.cons_append, Text.byteLength_cons, ← Nat.add_assoc, List.reverse_cons,
        List.append_assoc]
      simp only [openBraces?] at counted
      simp only [splitBody]
      split at counted
      · rw [if_pos ‹_›]
        exact ih counted _ _
      rw [if_neg ‹_›]
      split at counted
      · rw [if_pos ‹_›]
        cases depth with
        | zero => cases counted
        | succ depth => exact ih counted _ _
      · rw [if_neg ‹_›]
        exact ih counted _ _

theorem FormatPart.byteLength_code (part : Interpolation) :
    Text.byteLength (code part).written = 1 + Text.byteLength part.text.toList + 1 := by
  rw [written, List.cons_append, Text.byteLength_cons, Text.byteLength_append, Nat.add_assoc]
  rfl

theorem splitBody_interpolation (part : Interpolation) (read rest : List Char) (place : Nat) :
    splitBody (.text read) place ((FormatPart.code part).written ++ rest) =
      textPiece read ++ .code (place + 1) part.text.toList ::
        splitBody (.text []) (place + Text.byteLength (FormatPart.code part).written) rest := by
  let behind := part.text.toList ++ '\x7d' :: rest
  have shape : (FormatPart.code part).written ++ rest = '\x7b' :: behind := by
    simp [FormatPart.written, behind]
  have opens : splitBody (.text read) place ('\x7b' :: behind) =
      textPiece read ++ splitBody (.code place 0 []) (place + 1) behind := rfl
  have closes : splitBody (.code place 0 (part.text.toList.reverse ++ []))
      (place + 1 + Text.byteLength part.text.toList) ('\x7d' :: rest) =
        .code (place + 1) (part.text.toList.reverse ++ []).reverse ::
          splitBody (.text []) (place + 1 + Text.byteLength part.text.toList + 1) rest := rfl
  rw [shape, opens, splitBody_code part.balanced, closes, List.append_nil, List.reverse_reverse,
    FormatPart.byteLength_code, ← Nat.add_assoc, ← Nat.add_assoc]

theorem Interpolation.readPiece_code (part : Interpolation) {levels : Nat}
    (enough : part.text.toList.length ≤ levels) (body : List Char) (start place : Nat) :
    readPiece levels body start (.code place part.text.toList) =
      .ok (.code (part.value.relocate (· + (start + place)))) := by
  obtain ⟨tokens, lexed, alone⟩ := readAll_of_ofChars (part.plain '\n' (by decide))
    (part.plain ';' (by decide)) part.alone
  have moved := ok_of_toOption (tokenize_shift 0 (start + place) part.text.toList) lexed
  rw [Nat.zero_add] at moved
  have same : ∀ next ∈ tokens.map (Located.relocate (· + (start + place))),
      SameOn (formatPieces levels) readFormat next := by
    intro next member inner there written
    have within := length_le_of_format moved member written
    exact formatPieces_eq_readFormat (Nat.le_trans within enough) there
  have whole := ok_of_toOption (ExprState.readAll_relocate (readFormat_shift (start + place)) 0
    (start + place + Text.byteLength part.text.toList) tokens .initial) (alone 0)
  rw [readPiece, moved]
  dsimp only
  rw [ExprState.readAll_congr same]
  have initial : ExprState.initial.relocate (· + (start + place)) = .initial := rfl
  rw [initial] at whole
  rw [whole]

theorem mapM_textPiece (levels : Nat) (body read : List Char) (start : Nat) :
    (textPiece read).mapM (readPiece levels body start) =
      .ok (mergeTexts [.text (String.ofList read.reverse)]) := by
  cases read with
  | nil => rfl
  | cons c rest =>
      have some : String.ofList (c :: rest).reverse ≠ "" := by simp
      simp only [mergeTexts, if_neg some]
      rfl

theorem mapM_splitBody_written {levels : Nat} {parts : List FormatPart}
    (enough : (writtenParts parts).length ≤ levels) (body read : List Char) (start place : Nat) :
    (splitBody (.text read) place (writtenParts parts)).mapM (readPiece levels body start) =
      .ok (mergeTexts
        (.text (String.ofList read.reverse) :: placedPieces (start + place) parts)) := by
  induction parts generalizing read place with
  | nil => exact mapM_textPiece levels body read start
  | cons part rest ih =>
      rw [writtenParts_cons, List.length_append] at enough
      rw [writtenParts_cons, placedPieces]
      have later := fun read => ih (Nat.le_of_add_left_le enough) read
        (place + Text.byteLength part.written)
      rw [← Nat.add_assoc] at later
      cases part with
      | literal text =>
          have joined : String.ofList (text.toList.reverse ++ read).reverse =
              String.ofList read.reverse ++ text := by
            simp [String.ofList_append]
          have whole := later (text.toList.reverse ++ read)
          rw [joined, ← mergeTexts_text_text] at whole
          rw [FormatPart.written, splitBody_literal]
          exact whole
      | code part =>
          have within : part.text.toList.length ≤ levels := by
            simp only [FormatPart.written, List.length_append, List.length_cons] at enough
            omega
          have others := later []
          rw [List.reverse_nil, String.ofList_nil, mergeTexts_empty] at others
          rw [FormatPart.piece, mergeTexts_text_code, splitBody_interpolation, List.mapM_append,
            mapM_textPiece, List.mapM_cons, part.readPiece_code within, others, Nat.add_assoc]
          rfl

theorem readFormat_written (parts : List FormatPart) (start : Nat) :
    readFormat (writtenParts parts) start = .ok (mergedPieces (placedPieces start parts)) := by
  have pieces : (splitBody (.text []) 0 (writtenParts parts)).mapM
      (readPiece (writtenParts parts).length (writtenParts parts) start) =
        .ok (mergeTexts (placedPieces start parts)) := by
    have read := mapM_splitBody_written (Nat.le_refl (writtenParts parts).length)
      (writtenParts parts) [] start 0
    rwa [List.reverse_nil, String.ofList_nil, mergeTexts_empty] at read
  rw [← formatPieces_eq_readFormat (Nat.le_succ _), formatPieces_succ, pieces, mergedPieces]
  cases mergeTexts (placedPieces start parts) <;> rfl

/-- A format string is taken apart as it was written: texts between the same code are one text, and
the code is what it is alone, at its own place. -/
theorem parse_formatSource (parts : List FormatPart) :
    Program.parse (formatSource parts) =
      .ok [.expr (.format (mergedPieces (placedPieces 2 parts)))
        ⟨0, (formatSource parts).utf8ByteSize⟩] := by
  have lexed : tokenize 0 ('f' :: '"' :: writtenParts parts ++ ['"']) =
      .ok [⟨.format (writtenParts parts) 2, ⟨0, (formatSource parts).utf8ByteSize⟩⟩] := by
    have ran : LexState.run 0 (.initial 0) ('f' :: '"' :: writtenParts parts ++ ['"']) = _ :=
      LexState.run_format (unbroken_writtenParts parts)
    have bytes : (formatSource parts).utf8ByteSize =
        0 + 2 + Text.byteLength (writtenParts parts) + 1 := by
      rw [formatSource, utf8ByteSize_ofList, List.cons_append, List.cons_append,
        Text.byteLength_cons, Text.byteLength_cons, Text.byteLength_append]
      change 1 + (1 + (Text.byteLength (writtenParts parts) + 1)) = _
      omega
    rw [bytes]
    exact tokenize_eq_ok_iff.mpr ⟨_, ran, rfl⟩
  rw [Program.parse, formatSource, String.toList_ofList]
  refine ofChars_eq_ok_iff.mpr ⟨_, lexed, ?_⟩
  have started : ParseState.initial.read ⟨.format (writtenParts parts) 2,
      ⟨0, (formatSource parts).utf8ByteSize⟩⟩ =
        .ok (ParseState.initial.goto (.expr (.statement 0)
          ⟨.after (.format (mergedPieces (placedPieces 2 parts))) 0, []⟩)) := by
    simp only [ParseState.read, ParseState.initial, ParseState.atStart, ExprState.startOperand,
      readFormat_written]
  exact ParseState.complete?_cons_eq_some.mpr ⟨_, map_eq_ok.mpr ⟨_, started, rfl⟩, rfl⟩

/-- Texts with escapes, one of them empty, and a map, in which there is another format string. -/
theorem parse_formatSource_map :
    Program.parse "f\"a\\\"\\\x7b\\n\x7b x \x7d\x7b\x7b'k': f'\x7bx\x7d'\x7d['k']\x7d\"" =
      .ok [.expr (.format [.text "a\"\x7b\n", .code (.variable "x" ⟨11, 12⟩),
        .code (.index (.map [(.string "k", .format [.code (.variable "x" ⟨24, 25⟩)])]) (.string "k")
          ⟨15, 33⟩)]) ⟨0, 35⟩] := by
  let parts : List FormatPart := [.literal "a\"", .literal "\x7b\n",
    .code ⟨" x ", .variable "x" ⟨1, 2⟩, ⟨1, 2⟩, rfl, by simp, by decide⟩, .literal "",
    .code ⟨"\x7b'k': f'\x7bx\x7d'\x7d['k']",
      .index (.map [(.string "k", .format [.code (.variable "x" ⟨9, 10⟩)])]) (.string "k") ⟨0, 18⟩,
      ⟨0, 18⟩, rfl, by simp, by decide⟩]
  have source : formatSource parts =
      "f\"a\\\"\\\x7b\\n\x7b x \x7d\x7b\x7b'k': f'\x7bx\x7d'\x7d['k']\x7d\"" := by
    decide +kernel
  have pieces : mergedPieces (placedPieces 2 parts) = [.text "a\"\x7b\n",
      .code (.variable "x" ⟨11, 12⟩), .code (.index
        (.map [(.string "k", .format [.code (.variable "x" ⟨24, 25⟩)])]) (.string "k")
          ⟨15, 33⟩)] := by
    rfl
  have read := parse_formatSource parts
  rw [source, pieces] at read
  exact read

end LiteratePages.Code
