import LiteratePages.Json.Basic
import LiteratePages.Toml.Scalar

/-!
TOML values as JSON. A date or a time has no form of its own there: it is an object with one key,
`momentKey`, that holds its text. A table in which that key comes first is taken for such an object.
-/
namespace LiteratePages.Toml

/-- The key under which JSON holds the text of a date or a time. -/
def momentKey : String := "$__toml_private_datetime"

def momentObject (text : String) : Metadata := [(momentKey, .string text)]

/-- The text under `momentKey`, which must be that of a date or a time. -/
def heldMoment? : Toml → Option String
  | .string text => moment? .quoted text.toList
  | _ => none

mutual

/-- The JSON for a value, unless a table starts with `momentKey` and holds no date or time there.
One that does hold it has no other key in JSON. A float that is no finite number becomes null. -/
def toJson? : Toml → Option Json
  | .string value => some (.string value)
  | .integer value => some (.integer value)
  | .float value => match Exact.ofFloat value with
      | .finite .. => some (.real value)
      | _ => some .null
  | .boolean value => some (.bool value)
  | .moment text => some (.object (momentObject text))
  | .array items => do return .list (← itemsToJson? items)
  | .table [] => some (.object [])
  | .table ((key, value) :: rest) =>
      if key = momentKey then do return .object (momentObject (← heldMoment? value))
      else do
        let first ← toJson? value
        return .object (Entries.ofList ((key, first) :: (← entriesToJson? rest)))
termination_by structural value => value

def itemsToJson? : List Toml → Option (List Json)
  | [] => some []
  | item :: rest => do return (← toJson? item) :: (← itemsToJson? rest)
termination_by structural items => items

def entriesToJson? : List (String × Toml) → Option (List (String × Json))
  | [] => some []
  | (key, value) :: rest => do return (key, ← toJson? value) :: (← entriesToJson? rest)
termination_by structural entries => entries

end

/-- A table as data. Its own first key has no special meaning, and a date or a time counts as a
table with one key. -/
def toData? : Toml → Option Metadata
  | .table entries => (entriesToJson? entries).map Entries.ofList
  | .moment text => some (momentObject text)
  | _ => none

end LiteratePages.Toml
