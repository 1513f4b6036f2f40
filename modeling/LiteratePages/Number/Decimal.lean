import LiteratePages.Number.Exact
import LiteratePages.Number.Digits

namespace LiteratePages

/-- `digits · 10 ^ exponent`. -/
structure Decimal where
  digits : Nat
  exponent : Int
deriving Repr, DecidableEq

inductive Tie where
  | up
  | even
deriving Repr, DecidableEq

namespace Decimal

def width (n : Nat) : Nat := (Nat.toDigits 10 n).length

/-- The `p` with `10 ^ (p - 1) ≤ numerator / denominator < 10 ^ p`, for a fraction above zero. -/
def magnitude (numerator denominator : Nat) : Int :=
  if denominator ≤ numerator then width (numerator / denominator)
  else 1 - (width ((denominator + numerator - 1) / numerator - 1) : Int)

/-- The reals that read back as one number, as multiples of `1 / denominator`; `center` is the
number itself. -/
structure Interval where
  low : Nat
  center : Nat
  high : Nat
  denominator : Nat
  closed : Bool

/-- The interval of `mantissa · 2 ^ exponent`. It reaches half way to either neighbour, and the
lower neighbour of a power of two is nearer. -/
def Interval.around (mantissa : Nat) (exponent : Int) : Interval :=
  let below := if mantissa = Nat.pow 2 52 ∧ exponent ≠ -1074 then 1 else 2
  let scale := exponent - 2
  let unit := if 0 ≤ scale then Nat.pow 2 scale.toNat else 1
  { low := (4 * mantissa - below) * unit
    center := 4 * mantissa * unit
    high := (4 * mantissa + 2) * unit
    denominator := if 0 ≤ scale then 1 else Nat.pow 2 (-scale).toNat
    closed := mantissa % 2 = 0 }

/-- Whether `digits · numerator / denominator`, scaled to the interval's denominator, lies in it. -/
def Interval.holds (interval : Interval) (digits numerator denominator : Nat) : Bool :=
  let point := digits * numerator * interval.denominator
  let low := interval.low * denominator
  let high := interval.high * denominator
  if interval.closed then low ≤ point && point ≤ high else low < point && point < high

/-- The decimal of the grid `10 ^ place` that is in the interval and nearest to its center. -/
def Interval.nearest? (interval : Interval) (tie : Tie) (place : Int) : Option Decimal :=
  let numerator := if 0 ≤ place then Nat.pow 10 place.toNat else 1
  let denominator := if 0 ≤ place then 1 else Nat.pow 10 (-place).toNat
  let step := numerator * interval.denominator
  let center := interval.center * denominator
  let below := center / step
  let rest := center % step
  let takeAbove := match compare (2 * rest) step with
    | .lt => false
    | .gt => true
    | .eq => match tie with
        | .up => true
        | .even => below % 2 = 1
  match interval.holds below numerator denominator,
      interval.holds (below + 1) numerator denominator with
  | false, false => none
  | true, false => some ⟨below, place⟩
  | false, true => some ⟨below + 1, place⟩
  | true, true => some ⟨if takeAbove then below + 1 else below, place⟩

def shorten (d : Decimal) : Decimal :=
  if d.digits % 10 = 0 then ⟨d.digits / 10, d.exponent + 1⟩ else d

/-- The shortest decimal that reads back as `mantissa · 2 ^ exponent`, and of those the nearest to
it. Seventeen digits are always enough. -/
def shortest (tie : Tie) (mantissa : Nat) (exponent : Int) : Decimal :=
  if mantissa = 0 then ⟨0, 0⟩
  else
    let interval := Interval.around mantissa exponent
    let top := magnitude interval.center interval.denominator
    match (List.range 17).findSome? fun n => interval.nearest? tie (top - (n + 1 : Nat)) with
    | some found => found.shorten
    | none => ⟨wholePart mantissa exponent, 0⟩

def digitChars (d : Decimal) : List Char := Nat.toDigits 10 d.digits

/-- The decimal written by position, without an exponent, with a fraction only where one is
needed. -/
def positional (d : Decimal) : List Char :=
  let digits := d.digitChars
  if 0 ≤ d.exponent then digits ++ List.replicate d.exponent.toNat '0'
  else
    let places := (-d.exponent).toNat
    if places < digits.length then
      digits.take (digits.length - places) ++ '.' :: digits.drop (digits.length - places)
    else
      ['0', '.'] ++ List.replicate (places - digits.length) '0' ++ digits

/-- The number nearest to `digits · 10 ^ exponent`; beyond the largest it is infinite. -/
def toFloat (d : Decimal) : Float :=
  let top := width d.digits + d.exponent
  if d.digits = 0 ∨ top < -400 then 0
  else if 400 < top then (Exact.infinite false).toFloat
  else if 0 ≤ d.exponent then Float.ofScientific d.digits false d.exponent.toNat
  else Float.ofScientific d.digits true (-d.exponent).toNat

end Decimal

namespace Number

def ofDecimal (whole fraction : List Char) (exponent : Int) : Float :=
  Decimal.toFloat ⟨ofDigits (whole ++ fraction), exponent - fraction.length⟩

/-- A number by position with the fewest digits that read back, a tie going up. Zero keeps its
sign. -/
def text (x : Float) : String :=
  match Exact.ofFloat x with
  | .nan => "NaN"
  | .infinite negative => if negative then "-inf" else "inf"
  | .finite negative mantissa exponent =>
      let digits := (Decimal.shortest .up mantissa exponent).positional
      String.ofList (if negative then '-' :: digits else digits)

/-- A number as pages show it: whole numbers below `10 ^ 15` in magnitude are written as such, so
a negative zero has no sign. -/
def display (x : Float) : String :=
  match smallInteger? x with
  | some n => toString n
  | none => text x

end Number
end LiteratePages
