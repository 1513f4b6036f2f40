import LiteratePages.FileSystem
import LiteratePages.Path

/-!
A tree of files, of which one directory is the working directory: paths that are not absolute start
there. What reading and writing do is what they do on a system that lets the program do everything.
-/
namespace LiteratePages

inductive Node where
  | directory
  | file (content : ByteArray)

/-- The names that lead to a file or a directory from the root. -/
abbrev Place := List String

structure Files where
  nodes : List (Place × Node)
  working : Place

namespace Files

/-- An empty working directory. -/
def empty : Files := ⟨[], ["work"]⟩

/-- What is at a place. The working directory and those around it are there. -/
def node? (files : Files) (place : Place) : Option Node :=
  if place <+: files.working then some .directory else files.nodes.lookup place

def put (place : Place) (node : Node) : List (Place × Node) → List (Place × Node)
  | [] => [(place, node)]
  | (other, held) :: rest =>
      if place = other then (place, node) :: rest else (other, held) :: put place node rest

/-- Goes on from a place by a name. Above the root there is the root again. -/
def enter (place : Place) (name : String) : Place :=
  if name = ".." then place.dropLast else place ++ [name]

/-- The names of a path, in which dots stand for nothing. -/
def steps (path : String) : List String := (Path.parts path).filter fun part =>
  !part.isEmpty && part != "."

/-- Goes along names that must lead through directories. -/
def walk (files : Files) (place : Place) : List String → Except FileFault Place
  | [] => .ok place
  | name :: rest =>
      if 255 < name.utf8ByteSize then .error .nameTooLong
      else match files.node? (enter place name) with
        | none => .error .notFound
        | some .directory => walk files (enter place name) rest
        | some (.file _) => .error .notDirectory

/-- The place that a path starts from. -/
def origin (files : Files) (path : String) : Place :=
  if Path.isAbsolute path then [] else files.working

def endsInSlash (path : String) : Bool := path.toList.getLast? == some '/'

/-- The last part of a path that is not empty. -/
def lastPart? (path : String) : Option String :=
  ((Path.parts path).filter (!·.isEmpty)).getLast?

/-- The directory that holds the last name of a path, and that name. A path that ends in dots leads
to a directory itself, and has no such name. -/
def locate (files : Files) (path : String) : Except FileFault (Place × Option String) :=
  if path.isEmpty then .error .notFound
  else if path.toList.contains '\x00' then .error .zeroByte
  else if 4096 ≤ path.utf8ByteSize then .error .nameTooLong
  else
    let names := steps path
    match lastPart? path with
    | none | some "." | some ".." =>
        (files.walk (files.origin path) names).map fun place => (place, none)
    | some name =>
        (files.walk (files.origin path) names.dropLast).map fun place => (place, some name)

def look (files : Files) (place : Place) (name : String) : Except FileFault (Option Node) :=
  if 255 < name.utf8ByteSize then .error .nameTooLong
  else .ok (files.node? (enter place name))

def find (files : Files) (path : String) : Except FileFault (Option Node) :=
  match files.locate path with
  | .error fault => .error fault
  | .ok (place, none) => .ok (files.node? place)
  | .ok (place, some name) => files.look place name

def isDirectory (files : Files) (path : String) : Bool :=
  match files.find path with
  | .ok (some .directory) => true
  | _ => false

def readText (files : Files) (path : String) : Except FileFault String :=
  match files.find path with
  | .error fault => .error fault
  | .ok none => .error .notFound
  | .ok (some .directory) => .error .isDirectory
  | .ok (some (.file content)) =>
      if endsInSlash path then .error .notDirectory
      else match String.fromUTF8? content with
        | some text => .ok text
        | none => .error .invalidText

def putAt (files : Files) (place : Place) (node : Node) : Files :=
  ⟨put place node files.nodes, files.working⟩

/-- Writes a text to a file, which is made if its directory exists. A path that ends in a slash is
refused before anything is looked up in that directory. -/
def writeText (files : Files) (path text : String) : Except FileFault Unit × Files :=
  match files.locate path with
  | .error fault => (.error fault, files)
  | .ok (_, none) => (.error .isDirectory, files)
  | .ok (place, some name) =>
      if endsInSlash path then (.error .isDirectory, files)
      else match files.look place name with
        | .error fault => (.error fault, files)
        | .ok (some .directory) => (.error .isDirectory, files)
        | .ok _ => (.ok (), files.putAt (enter place name) (.file text.toUTF8))

/-- Makes one directory, which must not exist. -/
def makeDirectory (files : Files) (path : String) : Except FileFault Files :=
  match files.locate path with
  | .error fault => .error fault
  | .ok (_, none) => .error .alreadyExists
  | .ok (place, some name) => match files.look place name with
      | .error fault => .error fault
      | .ok (some _) => .error .alreadyExists
      | .ok none => .ok (files.putAt (enter place name) .directory)

def ensureDirectory (files : Files) (path : String) : Except FileFault Unit × Files :=
  match files.makeDirectory path with
  | .ok made => (.ok (), made)
  | .error fault => (if files.isDirectory path then .ok () else .error fault, files)

/-- Makes a directory and those above it, as far as they do not exist. Those made before a failure
stay. `levels` bounds how many are made; a path has no more names than characters. -/
def ensureAbove : (levels : Nat) → Files → String → Except FileFault Unit × Files
  | 0, files, _ => (.ok (), files)
  | levels + 1, files, path =>
      if path.isEmpty then (.ok (), files)
      else match files.ensureDirectory path with
        | (.error .notFound, files) => match Path.parent? path with
            | none => (.error .notFound, files)
            | some above => match ensureAbove levels files above with
                | (.ok (), files) => files.ensureDirectory path
                | failed => failed
        | result => result

def ensureDirectories (files : Files) (path : String) : Except FileFault Unit × Files :=
  ensureAbove (path.length + 1) files path

/-- Lays out a file or a directory with the directories above it. -/
def layOut (files : Files) (path : String) (node : Node) : Files :=
  let place := (steps path).foldl enter (files.origin path)
  let above := (List.range place.length).map place.take
  let files := above.foldl (fun files place =>
    if (files.node? place).isSome then files else files.putAt place .directory) files
  match node, files.node? place with
  | .directory, some _ => files
  | node, _ => files.putAt place node

/-- The files of `after` that are not in `before` with the same content, by their places. -/
def changes (before after : Files) : List (Place × ByteArray) :=
  after.nodes.filterMap fun (place, node) =>
    match node with
    | .directory => none
    | .file content =>
        match before.node? place with
        | some (.file old) => if old.data = content.data then none else some (place, content)
        | _ => some (place, content)

/-- The changed files below the working directory, by their paths from there. -/
def changed (before after : Files) : List (String × ByteArray) :=
  (changes before after).filterMap fun (place, content) =>
    if before.working <+: place then
      some ("/".intercalate (place.drop before.working.length), content)
    else none

instance : FileSystem Files where
  readText := readText
  ensureDirectories := ensureDirectories
  writeText := writeText

instance : Coe Files Texts := ⟨FileSystem.texts⟩

end Files
end LiteratePages
