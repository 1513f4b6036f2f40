import LiteratePages.Number.Decimal

/-!
Decimals read in two steps. The digits are gathered in one unsigned word of 64 bits, and the
number of that word is then multiplied or divided by a power of ten. The word, the power and the
result are each rounded to the nearest number, so the whole may miss the number nearest to the
decimal by a last bit.
-/
namespace LiteratePages

namespace Number

/-- Goes on reading digits after those of `value` as long as the result is below `2 ^ 64`, and
gives back the digits from the first that does not fit. -/
def readWord (value : Nat) : List Char → Nat × List Char
  | [] => (value, [])
  | digit :: rest =>
      let next := value * 10 + digitValue digit
      if next < Nat.pow 2 64 then readWord next rest else (value, digit :: rest)

/-- The digits that fit a word, each digit after the point one place further down. Digits of the
whole part that do not fit keep their places, those of the fraction are dropped. -/
def gather (whole fraction : List Char) : Decimal :=
  let (value, places) := readWord 0 whole
  let (value, dropped) := readWord value fraction
  ⟨value, places.length - (fraction.length - dropped.length : Nat)⟩

/-- `x · 10 ^ exponent` by one operation with a power up to `10 ^ 308`. Further down `10 ^ 308`
divides first, and doing so twice leaves nothing of a number below `2 ^ 64`. -/
def scaled (x : Float) (exponent : Int) : Float :=
  let power (places : Int) : Float := Decimal.toFloat ⟨1, places⟩
  if x == 0 then x
  else if 308 < exponent then (Exact.infinite false).toFloat
  else if 0 ≤ exponent then x * power exponent
  else if -308 ≤ exponent then x / power (-exponent)
  else if -616 ≤ exponent then x / power 308 / power (-exponent - 308)
  else 0

/-- The number of `whole.fraction · 10 ^ exponent`, read in two steps; beyond the largest it is
infinite. -/
def ofScaled (whole fraction : List Char) (exponent : Int) : Float :=
  let digits := gather whole fraction
  scaled (Decimal.toFloat ⟨digits.digits, 0⟩) (digits.exponent + exponent)

example : gather "18446744073709551616".toList [] = ⟨1844674407370955161, 1⟩ := by decide +kernel
example : gather "18446744073709551616".toList "05".toList = ⟨18446744073709551610, 0⟩ := by
  decide +kernel
example : (ofScaled "0".toList "57".toList 0).toBits = (0.57 : Float).toBits := by decide +kernel
example : (ofScaled "65".toList [] (-136)).toBits = (6.499999999999999e-135 : Float).toBits := by
  decide +kernel
example : ofScaled "1".toList "7976931348623158".toList 308 = 1.0 / 0.0 := by decide +kernel

end Number
end LiteratePages
