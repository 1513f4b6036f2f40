namespace LiteratePages.Text

/-- The characters with the white-space property of Unicode. -/
def isBlank (c : Char) : Bool :=
  let n := c.val
  (0x09 ≤ n && n ≤ 0x0d) || n == 0x20 || n == 0x85 || n == 0xa0 || n == 0x1680 ||
    (0x2000 ≤ n && n ≤ 0x200a) || n == 0x2028 || n == 0x2029 || n == 0x202f || n == 0x205f ||
    n == 0x3000

/-- A text is blank when no character of it shows; the empty text is blank. -/
def allBlank (text : List Char) : Bool := text.all isBlank

def trimStart (text : List Char) : List Char := text.dropWhile isBlank

def trimEnd (text : List Char) : List Char := (text.reverse.dropWhile isBlank).reverse

def trim (text : List Char) : List Char := trimEnd (trimStart text)

def indent (text : List Char) : List Char := text.takeWhile isBlank

theorem indent_append_trimStart (text : List Char) : indent text ++ trimStart text = text :=
  List.takeWhile_append_dropWhile

end LiteratePages.Text

namespace LiteratePages

def trimEnd (text : String) : String := String.ofList (Text.trimEnd text.toList)

def trim (text : String) : String := String.ofList (Text.trim text.toList)

def isBlankText (text : String) : Bool := Text.allBlank text.toList

end LiteratePages
