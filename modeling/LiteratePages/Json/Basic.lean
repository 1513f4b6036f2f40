import LiteratePages.Entries

/-!
JSON values. A number written without fraction and exponent is an integer while it fits 64 bits,
and every other number is a real; objects are held in the order of their keys.
-/
namespace LiteratePages

inductive Json where
  | null
  | bool (value : Bool)
  | integer (value : Int)
  | real (value : Float)
  | string (value : String)
  | list (items : List Json)
  | object (entries : List (String × Json))
deriving Inhabited

namespace Json

/-- Whether an integer keeps its form: it is a signed or an unsigned word of 64 bits. -/
def isWord (n : Int) : Bool := -Int.pow 2 63 ≤ n && n < Int.pow 2 64

def asString? : Json → Option String
  | .string value => some value
  | _ => none

end Json

/-- What a page says about itself: a JSON object. -/
abbrev Metadata := Entries Json

end LiteratePages
