namespace LiteratePages.Html

/-- A character as it may stand in the content of an element or between the quotes of an
attribute. -/
def escapeChar (c : Char) : List Char :=
  match c with
  | '&' => "&amp;".toList
  | '<' => "&lt;".toList
  | '>' => "&gt;".toList
  | '"' => "&quot;".toList
  | '\'' => "&#x27;".toList
  | c => [c]

def escapeChars (text : List Char) : List Char := text.flatMap escapeChar

def escape (text : String) : String := String.ofList (escapeChars text.toList)

end LiteratePages.Html
