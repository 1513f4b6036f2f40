namespace LiteratePages.Number

/-- The value of a digit, of which letters are those above nine. -/
def digitValue (c : Char) : Nat :=
  if c.isDigit then c.toNat - '0'.toNat
  else if 'a' ≤ c then c.toNat - 'a'.toNat + 10
  else c.toNat - 'A'.toNat + 10

def isHexDigit (c : Char) : Bool :=
  c.isDigit || ('a' ≤ c && c ≤ 'f') || ('A' ≤ c && c ≤ 'F')

def ofBase (base : Nat) (digits : List Char) : Nat :=
  digits.foldl (fun value digit => value * base + digitValue digit) 0

def ofDigits (digits : List Char) : Nat := ofBase 10 digits

example : ofBase 16 "1Fa".toList = 506 := by decide +kernel

end LiteratePages.Number
