import LiteratePages.Number.Exact

/-!
Words of 64 bits. A word is carried as the whole number that it stands for. Where no word stands for
the exact result, an operation gives the nearest one, the one that is left modulo `2 ^ 64`, or none.
-/
namespace LiteratePages.Number

/-- The unsigned word for a whole number, if there is one. -/
def unsigned64? (n : Int) : Option Nat :=
  if 0 ≤ n ∧ n.toNat < Nat.pow 2 64 then some n.toNat else none

/-- The signed word that is left of a whole number modulo `2 ^ 64`. -/
def wrapSigned64 (n : Int) : Int := n.bmod (Nat.pow 2 64)

/-- The unsigned word that is left of a whole number modulo `2 ^ 64`. -/
def wrapUnsigned64 (n : Int) : Nat := (n % (Nat.pow 2 64 : Nat)).toNat

/-- The difference of two signed words, or the end of their range beyond which it lies. -/
def saturatingSubtract (a b : Int) : Int := clamp (-Int.pow 2 63) (Int.pow 2 63 - 1) (a - b)

end LiteratePages.Number
