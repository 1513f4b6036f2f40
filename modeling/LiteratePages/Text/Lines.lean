import LiteratePages.Text.Blank

/-!
Texts as lines. `splitLines` and `joinLines` are inverse to each other; `sourceLines` is the
reading of a file, in which a line feed ends a line and a carriage return before it goes with it.
-/
namespace LiteratePages.Text

/-- The pieces of a text between the places where `mark` stands. There is always at least one. -/
def split (mark : Char) (text : List Char) : List (List Char) :=
  text.foldr (fun c pieces =>
    if c = mark then [] :: pieces
    else match pieces with
      | piece :: rest => (c :: piece) :: rest
      | [] => [[c]]) [[]]

def splitLines (text : List Char) : List (List Char) := split '\n' text

/-- The part before the first character that `mark` accepts, and the part after it if there is such
a character. -/
def cut (mark : Char → Bool) (text : List Char) : List Char × Option (List Char) :=
  match text.dropWhile (!mark ·) with
  | [] => (text, none)
  | _ :: rest => (text.takeWhile (!mark ·), some rest)

def joinLines (lines : List (List Char)) : List Char := ['\n'].intercalate lines

def dropFinal (c : Char) (text : List Char) : List Char :=
  if text.getLast? = some c then text.dropLast else text

/-- The lines of a file. A final line feed ends the last line and starts none. -/
def sourceLines (text : List Char) : List (List Char) :=
  let pieces := splitLines text
  let ended := pieces.dropLast.map (dropFinal '\r')
  match pieces.getLast? with
  | none | some [] => ended
  | some last => ended ++ [last]

def commonStart : List Char → List Char → List Char
  | a :: as, b :: bs => if a = b then a :: commonStart as bs else []
  | _, _ => []

/-- The longest blank text that every line with something to show starts with. -/
def margin (lines : List (List Char)) : List Char :=
  match (lines.filter (!allBlank ·)).map indent with
  | [] => []
  | first :: rest => rest.foldl commonStart first

/-- The text without the margin of its lines; lines that show nothing become empty. -/
def dedent (text : List Char) : List Char :=
  let lines := splitLines text
  let width := (margin lines).length
  joinLines (lines.map fun line => if allBlank line then [] else line.drop width)

theorem split_ne_nil (mark : Char) (text : List Char) : split mark text ≠ [] := by
  cases text with
  | nil => simp [split]
  | cons c rest =>
      simp only [split, List.foldr_cons]
      split
      · simp
      · split <;> simp

theorem splitLines_ne_nil (text : List Char) : splitLines text ≠ [] := split_ne_nil '\n' text

@[simp] theorem splitLines_nil : splitLines [] = [[]] := rfl

@[simp] theorem splitLines_newline (rest : List Char) :
    splitLines ('\n' :: rest) = [] :: splitLines rest := by
  simp [splitLines, Text.split]

theorem splitLines_cons {c : Char} (rest : List Char) (other : c ≠ '\n') :
    ∃ piece more, splitLines rest = piece :: more ∧
      splitLines (c :: rest) = (c :: piece) :: more := by
  cases pieces : splitLines rest with
  | nil => exact absurd pieces (splitLines_ne_nil rest)
  | cons piece more =>
      refine ⟨piece, more, rfl, ?_⟩
      simp only [splitLines, Text.split] at pieces
      simp [splitLines, Text.split, other, pieces]

theorem joinLines_cons_cons (first second : List Char) (rest : List (List Char)) :
    joinLines (first :: second :: rest) = first ++ '\n' :: joinLines (second :: rest) := by
  simp [joinLines, List.intercalate]

/-- Nothing is lost in splitting a text. -/
theorem joinLines_splitLines (text : List Char) : joinLines (splitLines text) = text := by
  induction text with
  | nil => rfl
  | cons c rest ih =>
      by_cases newline : c = '\n'
      · subst newline
        rw [splitLines_newline]
        cases pieces : splitLines rest with
        | nil => exact absurd pieces (splitLines_ne_nil rest)
        | cons piece more =>
            rw [pieces] at ih
            rw [joinLines_cons_cons, ih, List.nil_append]
      · obtain ⟨piece, more, pieces, result⟩ := splitLines_cons rest newline
        rw [pieces] at ih
        rw [result, ← ih]
        cases more with
        | nil => simp [joinLines, List.intercalate]
        | cons next more => simp [joinLines_cons_cons]

end LiteratePages.Text

namespace LiteratePages

def sourceLines (text : String) : List String :=
  (Text.sourceLines text.toList).map String.ofList

def joinLines (lines : List String) : String := "\n".intercalate lines

def dedent (text : String) : String := String.ofList (Text.dedent text.toList)

example : sourceLines "a\r\n\nb\r" = ["a", "", "b\r"] := by decide +kernel
example : dedent "\n    a:\n      b\n  " = "\na:\n  b\n" := by decide +kernel

end LiteratePages
