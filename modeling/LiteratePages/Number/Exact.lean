namespace LiteratePages

/-- What a number is, with nothing rounded. -/
inductive Exact where
  | nan
  | infinite (negative : Bool)
  /-- `mantissa · 2 ^ exponent`, negated if `negative`. -/
  | finite (negative : Bool) (mantissa : Nat) (exponent : Int)
deriving Repr, DecidableEq

/-- A number is written in binary as a sign, eleven bits of exponent and fifty-two of mantissa. -/
def Exact.ofFloat (x : Float) : Exact :=
  let bits := x.toBits.toNat
  let negative := Nat.pow 2 63 ≤ bits
  let exponent : Nat := bits / Nat.pow 2 52 % Nat.pow 2 11
  let fraction : Nat := bits % Nat.pow 2 52
  if exponent = Nat.pow 2 11 - 1 then
    if fraction = 0 then .infinite negative else .nan
  else if exponent = 0 then .finite negative fraction (-1074)
  else .finite negative (Nat.pow 2 52 + fraction) ((exponent : Int) - 1075)

/-- The number with a value that fits it: `mantissa` has at most fifty-three significant bits. -/
def Exact.toFloat : Exact → Float
  | .nan => Float.ofBits 0x7ff8000000000000
  | .infinite negative => Float.ofBits (if negative then 0xfff0000000000000 else 0x7ff0000000000000)
  | .finite negative mantissa exponent =>
      let sign := if negative then Nat.pow 2 63 else 0
      if mantissa = 0 then Float.ofBits (.ofNat sign)
      else
        let shift := min (52 - (mantissa.log2 : Int)) (exponent + 1074)
        let whole := if 0 ≤ shift then mantissa <<< shift.toNat else mantissa >>> (-shift).toNat
        let scale := (exponent - shift + 1074).toNat
        -- A mantissa with its top bit set adds one to the exponent field.
        Float.ofBits (.ofNat (sign + scale * Nat.pow 2 52 + whole))

def wholePart (mantissa : Nat) (exponent : Int) : Nat :=
  if 0 ≤ exponent then mantissa * Nat.pow 2 exponent.toNat
  else mantissa / Nat.pow 2 (-exponent).toNat

def hasNoFraction (mantissa : Nat) (exponent : Int) : Bool :=
  0 ≤ exponent || mantissa % Nat.pow 2 (-exponent).toNat = 0

def signed (negative : Bool) (magnitude : Nat) : Int := if negative then -magnitude else magnitude

def clamp (least greatest n : Int) : Int := max least (min greatest n)

/-- Toward zero into the range from `least` to `greatest`, and zero for what is no number. -/
def Exact.toIntClamped (least greatest : Int) : Exact → Int
  | .nan => 0
  | .infinite negative => if negative then least else greatest
  | .finite negative mantissa exponent =>
      clamp least greatest (signed negative (wholePart mantissa exponent))

namespace Number

/-- Whether rounding down changes nothing. That holds of the infinities too. -/
def isFloor (x : Float) : Bool :=
  match Exact.ofFloat x with
  | .nan => false
  | .infinite _ => true
  | .finite _ mantissa exponent => hasNoFraction mantissa exponent

/-- The whole number that `x` is, if it is one below `10 ^ 15` in magnitude. -/
def smallInteger? (x : Float) : Option Int :=
  match Exact.ofFloat x with
  | .finite negative mantissa exponent =>
      if hasNoFraction mantissa exponent ∧ wholePart mantissa exponent < Nat.pow 10 15 then
        some (signed negative (wholePart mantissa exponent))
      else none
  | _ => none

/-- Toward zero to a signed word of 64 bits, with values outside brought to the nearest end. -/
def toSigned64 (x : Float) : Int :=
  (Exact.ofFloat x).toIntClamped (-Int.pow 2 63) (Int.pow 2 63 - 1)

def toUnsigned64 (x : Float) : Nat :=
  ((Exact.ofFloat x).toIntClamped 0 (Int.pow 2 64 - 1)).toNat

/-- What is left of `x` after taking away whole multiples of `y` toward zero. It has the sign of
`x`. -/
def truncatedRemainder (x y : Float) : Float :=
  match Exact.ofFloat x, Exact.ofFloat y with
  | .finite negative m e, .finite _ n f =>
      if n = 0 then Exact.nan.toFloat
      else
        let unit := min e f
        let dividend := m * Nat.pow 2 (e - unit).toNat
        let divisor := n * Nat.pow 2 (f - unit).toNat
        (Exact.finite negative (dividend % divisor) unit).toFloat
  | .finite .., .infinite _ => x
  | _, _ => Exact.nan.toFloat

def remainder (x y : Float) : Float :=
  let rest := truncatedRemainder x y
  if rest < 0 then rest + y.abs else rest

example : smallInteger? 7 = some 7 := by decide +kernel
example : smallInteger? 7.5 = none := by decide +kernel
example : smallInteger? 1e15 = none := by decide +kernel
example : toSigned64 (-1e300) = -Int.pow 2 63 := by decide +kernel
example : (truncatedRemainder 5 0.1).toBits = (0.09999999999999973 : Float).toBits := by
  decide +kernel

end Number
end LiteratePages
