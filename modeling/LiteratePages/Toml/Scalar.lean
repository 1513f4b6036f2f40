import LiteratePages.Number.Decimal
import LiteratePages.Text.Lines
import LiteratePages.Toml.Basic

namespace LiteratePages.Toml

def isWordChar (c : Char) : Bool :=
  c.isAlphanum || c == '+' || c == '-' || c == '_' || c == '.' || c == ':'

/-- Digits in which single underscores may stand between two of them, without the underscores. -/
def digits? (isDigit : Char → Bool) (chars : List Char) : Option (List Char) :=
  let groups := Text.split '_' chars
  if groups.all fun group => !group.isEmpty && group.all isDigit then some groups.flatten else none

def splitSign : List Char → Bool × List Char
  | '-' :: rest => (true, rest)
  | '+' :: rest => (false, rest)
  | chars => (false, chars)

/-- Decimal digits that start with zero only if there is no other. -/
def decimal? (chars : List Char) : Option (List Char) := do
  let digits ← digits? Char.isDigit chars
  if digits.head? = some '0' ∧ chars.length ≠ 1 then none else some digits

def checkedInteger (n : Int) : Option Toml :=
  if -Int.pow 2 63 ≤ n ∧ n < Int.pow 2 63 then some (.integer n) else none

def integer? (chars : List Char) : Option Toml :=
  match chars with
  | '0' :: 'x' :: rest => do checkedInteger (Number.ofBase 16 (← digits? Number.isHexDigit rest))
  | '0' :: 'o' :: rest => do
      checkedInteger (Number.ofBase 8 (← digits? (fun c => '0' ≤ c && c ≤ '7') rest))
  | '0' :: 'b' :: rest => do
      checkedInteger (Number.ofBase 2 (← digits? (fun c => c == '0' || c == '1') rest))
  | chars => do
      let (negative, magnitude) := splitSign chars
      checkedInteger (signed negative (Number.ofBase 10 (← decimal? magnitude)))

/-- A number with a fraction or an exponent. One above all numbers is refused. -/
def float? (chars : List Char) : Option Toml := do
  let (negative, magnitude) := splitSign chars
  let apply (x : Float) : Float := if negative then -x else x
  if magnitude = "inf".toList then return .float (apply (Exact.infinite false).toFloat)
  if magnitude = "nan".toList then return .float Exact.nan.toFloat
  let (mantissa, power) := Text.cut (fun c => c == 'e' || c == 'E') magnitude
  let (whole, fraction) := Text.cut (· == '.') mantissa
  if fraction.isNone && power.isNone then none
  let whole ← decimal? whole
  let fraction ← match fraction with
    | some digits => digits? Char.isDigit digits
    | none => some []
  let power ← match power with
    | some chars => do
        let (negative, digits) := splitSign chars
        pure (signed negative (Number.ofDigits (← digits? Char.isDigit digits)))
    | none => some 0
  let value := apply (Number.ofDecimal whole fraction power)
  if value == (Exact.infinite false).toFloat then none else return .float value

/-- A number of exactly `count` digits within bounds, and what follows it. -/
def fixedDigits? (count least greatest : Nat) (chars : List Char) : Option (List Char × List Char) :=
  let digits := chars.take count
  let value := Number.ofDigits digits
  if digits.length = count ∧ digits.all Char.isDigit ∧ least ≤ value ∧ value ≤ greatest then
    some (digits, chars.drop count)
  else none

def expect? (c : Char) : List Char → Option (List Char)
  | first :: rest => if first = c then some rest else none
  | [] => none

def daysInMonth (year month : Nat) : Nat :=
  if month = 2 then
    if year % 4 = 0 ∧ (year % 100 ≠ 0 ∨ year % 400 = 0) then 29 else 28
  else if month = 4 ∨ month = 6 ∨ month = 9 ∨ month = 11 then 30
  else 31

def date? (chars : List Char) : Option (List Char × List Char) := do
  let (year, rest) ← fixedDigits? 4 0 9999 chars
  let (month, rest) ← fixedDigits? 2 1 12 (← expect? '-' rest)
  let last := daysInMonth (Number.ofDigits year) (Number.ofDigits month)
  let (day, rest) ← fixedDigits? 2 1 last (← expect? '-' rest)
  return (year ++ '-' :: month ++ '-' :: day, rest)

/-- The fraction of a second, in its standard form: nine digits at most, and no zeros at the end. -/
def secondFraction (digits : List Char) : List Char :=
  match ((digits.take 9).reverse.dropWhile (· == '0')).reverse with
  | [] => []
  | kept => '.' :: kept

/-- How far the parts of a time and of its distance from universal time go. -/
structure ClockLimits where
  hour : Nat
  offsetHour : Nat
  offsetMinute : Nat

def ClockLimits.bare : ClockLimits := ⟨23, 23, 59⟩

/-- The limits of quoted texts: a day may end in an hour 24, and a distance may have minutes beyond
the hour. -/
def ClockLimits.quoted : ClockLimits := ⟨24, 24, 99⟩

def time? (limits : ClockLimits) (chars : List Char) : Option (List Char × List Char) := do
  let (hour, rest) ← fixedDigits? 2 0 limits.hour chars
  let (minute, rest) ← fixedDigits? 2 0 59 (← expect? ':' rest)
  let (second, rest) ← fixedDigits? 2 0 60 (← expect? ':' rest)
  let whole := hour ++ ':' :: minute ++ ':' :: second
  match rest with
  | '.' :: rest =>
      let digits := rest.takeWhile Char.isDigit
      if digits.isEmpty then none
      else return (whole ++ secondFraction digits, rest.dropWhile Char.isDigit)
  | rest => return (whole, rest)

def twoDigits (n : Nat) : List Char :=
  if n < 10 then '0' :: Nat.toDigits 10 n else Nat.toDigits 10 n

/-- The end of a time of day somewhere, in its standard form: nothing, or the distance from
universal time, which is a day at most. -/
def offset? (limits : ClockLimits) (chars : List Char) : Option (List Char) :=
  match chars with
  | [] => some []
  | ['Z'] | ['z'] => some ['Z']
  | sign :: rest => do
      if sign ≠ '+' ∧ sign ≠ '-' then none
      let (hour, rest) ← fixedDigits? 2 0 limits.offsetHour rest
      let (minute, rest) ← fixedDigits? 2 0 limits.offsetMinute (← expect? ':' rest)
      let minutes := Number.ofDigits hour * 60 + Number.ofDigits minute
      if rest.isEmpty ∧ minutes ≤ 24 * 60 then
        let sign := if minutes = 0 then '+' else sign
        return sign :: twoDigits (minutes / 60) ++ ':' :: twoDigits (minutes % 60)
      else none

/-- A date, a time, or both with `T` or a blank between them, in its standard form. -/
def moment? (limits : ClockLimits) (chars : List Char) : Option String :=
  match date? chars with
  | some (date, []) => some (String.ofList date)
  | some (date, mark :: rest) => do
      if mark ≠ 'T' ∧ mark ≠ 't' ∧ mark ≠ ' ' then none
      let (time, rest) ← time? limits rest
      let offset ← offset? limits rest
      return String.ofList (date ++ 'T' :: time ++ offset)
  | none => do
      let (time, rest) ← time? limits chars
      if rest.isEmpty then return String.ofList time else none

def bareMoment? (chars : List Char) : Option Toml := (moment? .bare chars).map .moment

def word? (chars : List Char) : Option Toml :=
  if chars = "true".toList then some (.boolean true)
  else if chars = "false".toList then some (.boolean false)
  else (bareMoment? chars).or ((float? chars).or (integer? chars))

/-- Reads a bare word. A date may be followed by a blank and a time. -/
def readWord (chars : List Char) : Option (Toml × List Char) :=
  let word := chars.takeWhile isWordChar
  let rest := chars.dropWhile isWordChar
  let alone : Option (Toml × List Char) := (word? word).map (·, rest)
  match date? word, rest with
  | some (_, []), ' ' :: more =>
      let second := more.takeWhile isWordChar
      if second.isEmpty then alone
      else (bareMoment? (word ++ ' ' :: second)).map (·, more.dropWhile isWordChar)
  | _, _ => alone

end LiteratePages.Toml
