namespace LiteratePages

inductive Toml where
  | string (value : String)
  | integer (value : Int)
  | float (value : Float)
  | boolean (value : Bool)
  /-- A date, a time or both, in its standard form. -/
  | moment (text : String)
  | array (items : List Toml)
  | table (entries : List (String × Toml))
deriving Inhabited

namespace Toml

/-- Gives `key` the value `value`: in the place that the key has, or else behind all others. -/
def put {α : Type} (key : String) (value : α) : List (String × α) → List (String × α)
  | [] => [(key, value)]
  | (other, held) :: rest =>
      if other = key then (key, value) :: rest else (other, held) :: put key value rest

mutual

/-- What a key leads to while a document is being read. -/
inductive Item where
  | value (held : Toml)
  | table (child : Table)
  | tables (elements : List Table)

/-- A table that may still grow. It is implied when only longer keys or headers mention it, and
dotted when it was made by a dotted key. -/
inductive Table where
  | mk (implied dotted : Bool) (entries : List (String × Item))

end

namespace Table

def implied : Table → Bool
  | .mk implied _ _ => implied

def dotted : Table → Bool
  | .mk _ dotted _ => dotted

def entries : Table → List (String × Item)
  | .mk _ _ entries => entries

def empty : Table := .mk false false []

def get? (table : Table) (key : String) : Option Item := table.entries.lookup key

def withEntries (table : Table) (entries : List (String × Item)) : Table :=
  .mk table.implied table.dotted entries

def insert (table : Table) (key : String) (item : Item) : Table :=
  table.withEntries (put key item table.entries)

def erase (table : Table) (key : String) : Table :=
  table.withEntries (table.entries.filter (·.1 ≠ key))

/-- Changes the table that a path leads to, and makes those on the way that do not exist. A dotted
key does not lead into a table that has a header. -/
def modify (byDots : Bool) (change : Table → Option Table) : List String → Table → Option Table
  | [], target => change target
  | key :: rest, target =>
      match target.get? key with
      | none => do
          let child ← modify byDots change rest (.mk true byDots [])
          return target.insert key (.table child)
      | some (.value _) => none
      | some (.tables elements) => do
          let last ← elements.getLast?
          let child ← modify byDots change rest last
          return target.insert key (.tables (elements.dropLast ++ [child]))
      | some (.table child) =>
          if byDots && !child.implied then none
          else do
            let child ← modify byDots change rest child
            return target.insert key (.table child)

/-- Gives the last key of a dotted key its value, which it must not have yet. -/
def assign (path : List String) (value : Toml) (table : Table) : Option Table := do
  let key ← path.getLast?
  let above := path.dropLast
  modify true (fun table =>
    if table.dotted == above.isEmpty then none
    else match table.get? key with
      | some _ => none
      | none => some (table.insert key (.value value))) above table

/-- Takes out the table that a header names, so that it can be filled: a new one, or one that was
only implied. -/
def open? (path : List String) (root : Table) : Option Table := do
  let key ← path.getLast?
  let parent ← find path.dropLast root
  match parent.get? key with
  | none => return empty
  | some (.table known) =>
      if known.implied && !known.dotted then return .mk false false known.entries else none
  | some _ => none
where
  find : List String → Table → Option Table
    | [], target => some target
    | key :: rest, target => match target.get? key with
        | none => some empty
        | some (.value _) => none
        | some (.tables elements) => elements.getLast?.bind (find rest)
        | some (.table child) => find rest child

/-- Puts the table of a header back, behind all that the table around it holds. -/
def close (path : List String) (table root : Table) : Option Table := do
  let key ← path.getLast?
  modify false (fun parent => some ((parent.erase key).insert key (.table table))) path.dropLast root

def push (path : List String) (table root : Table) : Option Table := do
  let key ← path.getLast?
  modify false (fun parent => match parent.get? key with
    | none => some (parent.insert key (.tables [table]))
    | some (.tables elements) => some (parent.insert key (.tables (elements ++ [table])))
    | some _ => none) path.dropLast root

end Table

mutual

def Item.toToml : Item → Toml
  | .value value => value
  | .table child => child.toToml
  | .tables elements => .array (elementsToToml elements)
termination_by structural item => item

def Table.toToml : Table → Toml
  | .mk _ _ entries => .table (entriesToToml entries)
termination_by structural table => table

def elementsToToml : List Table → List Toml
  | [] => []
  | element :: rest => element.toToml :: elementsToToml rest
termination_by structural tables => tables

def entriesToToml : List (String × Item) → List (String × Toml)
  | [] => []
  | (key, item) :: rest => (key, item.toToml) :: entriesToToml rest
termination_by structural entries => entries

end

end Toml
end LiteratePages
