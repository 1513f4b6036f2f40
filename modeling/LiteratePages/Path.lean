import LiteratePages.Text.Lines

/-!
Paths as texts. A path keeps the way it is written; its names are the parts between slashes, of
which empty ones and single dots stand for nothing, except for a dot at the very start.
-/
namespace LiteratePages.Path

def isAbsolute (path : String) : Bool := path.toList.head? == some '/'

def parts (path : String) : List String := (Text.split '/' path.toList).map String.ofList

def isName (absolute : Bool) (index : Nat) (part : String) : Bool :=
  !part.isEmpty && (part != "." || (index == 0 && !absolute))

/-- The parts of a path up to the last name. -/
def dropTail (absolute : Bool) (parts : List String) : List String :=
  (parts.zipIdx.reverse.dropWhile fun (part, index) => !isName absolute index part).reverse.map (·.1)

/-- The path that ends before the last name, if there is a name. -/
def parent? (path : String) : Option String :=
  let absolute := isAbsolute path
  let named := dropTail absolute (parts path)
  if named.isEmpty then none
  else
    let above := dropTail absolute named.dropLast
    some (if above.isEmpty && absolute then "/" else "/".intercalate above)

/-- The last name of a path, unless it leads upwards. -/
def fileName? (path : String) : Option String :=
  match (dropTail (isAbsolute path) (parts path)).getLast? with
  | some name => if name == ".." || name == "." then none else some name
  | none => none

/-- What follows the last dot of the last name, if anything stands before that dot. -/
def extension? (path : String) : Option String :=
  match fileName? path with
  | none => none
  | some name =>
      let pieces := Text.split '.' name.toList
      if pieces.length < 2 ∨ (pieces.length = 2 ∧ pieces.head? = some []) then none
      else pieces.getLast?.map String.ofList

/-- The path that `path` is, seen from the directory `base`. -/
def join (base path : String) : String :=
  if isAbsolute path ∨ base.isEmpty then path
  else if base.toList.getLast? = some '/' then base ++ path
  else base ++ "/" ++ path

def directory? (path : String) : Option String := (parent? path).filter (!·.isEmpty)

example : parent? "a/./b//" = some "a" := by decide +kernel
example : parent? "/a" = some "/" := by decide +kernel
example : parent? "/" = none := by decide +kernel
example : parent? "a" = some "" := by decide +kernel
example : parent? "./a" = some "." := by decide +kernel
example : extension? "d/a.b.lit" = some "lit" := by decide +kernel
example : extension? ".lit" = none := by decide +kernel
example : extension? "a." = some "" := by decide +kernel

end LiteratePages.Path
