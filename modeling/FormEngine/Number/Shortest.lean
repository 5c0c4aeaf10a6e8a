import FormEngine.Number.Double

/-!
# Shortest decimal text of a number

A finite number is written with the fewest significant digits that read back as the same number,
and among those with the digits nearest to it. Where the digits stand and when an exponent is
written is a `DecimalStyle`.
-/

namespace FormEngine

-- Powers are those of the core library, whatever algebra is in scope beside this module.
attribute [local instance (high)] instPowNat

/-- Decimal digits of a natural number. -/
def decimalDigits (value : Nat) : List Char :=
  Nat.toDigits 10 value

/-- Decimal digits of a natural number, with leading zeros up to `width`. -/
def paddedDigits (width value : Nat) : List Char :=
  let digits := decimalDigits value
  List.replicate (width - digits.length) '0' ++ digits

/-- The decimal text of an integer. -/
def intText (value : Int) : String :=
  let digits := String.ofList (decimalDigits value.natAbs)
  if value < 0 then "-" ++ digits else digits

namespace Double

/-- The power of ten at or below a positive ratio. -/
def decimalExponent (numerator denominator : Nat) : Int :=
  if denominator ≤ numerator then
    ((decimalDigits (numerator / denominator)).length : Int) - 1
  else -((decimalDigits ((denominator - 1) / numerator)).length : Int)

/-- Digits with the power of ten of the last one. -/
structure Digits where
  value : Nat
  exponent : Int
  deriving DecidableEq, Repr

/-- A decimal grid point in units, as a ratio. -/
def Digits.ratio (digits : Digits) : Nat × Nat :=
  if digits.exponent ≥ 0 then (digits.value * 10 ^ digits.exponent.toNat * unitsPerOne, 1)
  else (digits.value * unitsPerOne, 10 ^ (-digits.exponent).toNat)

/-- Whether a decimal reads back as the number with the given code: it lies between the midpoints
to the neighbouring codes, where a midpoint itself goes to the even code. -/
def Digits.readsBackAs (digits : Digits) (code : Nat) : Bool :=
  let (numerator, denominator) := digits.ratio
  let low := (units (code - 1) + units code) * denominator
  let high := (units code + units (code + 1)) * denominator
  let twice := 2 * numerator
  if code % 2 == 0 then low ≤ twice && twice ≤ high else low < twice && twice < high

/-- The distance of a decimal from a code, as a ratio of units. -/
def Digits.distance (digits : Digits) (code : Nat) : Nat × Nat :=
  let (numerator, denominator) := digits.ratio
  let exact := units code * denominator
  (if exact ≤ numerator then numerator - exact else exact - numerator, denominator)

/-- The two neighbours of a code on the grid whose last digit has the given power of ten. -/
def gridNeighbours (code : Nat) (exponent : Int) : Digits × Digits :=
  let below :=
    if exponent ≥ 0 then units code / (10 ^ exponent.toNat * unitsPerOne)
    else units code * 10 ^ (-exponent).toNat / unitsPerOne
  (⟨below, exponent⟩, ⟨below + 1, exponent⟩)

/-- The better of the neighbours on one grid, if any reads back. Of two the nearer is taken, and
the one with an even last digit where both are equally near. -/
def onGrid? (code : Nat) (exponent : Int) : Option Digits :=
  let (below, above) := gridNeighbours code exponent
  match below.readsBackAs code, above.readsBackAs code with
  | true, false => some below
  | false, true => some above
  | false, false => none
  | true, true =>
    let (toBelow, _) := below.distance code
    let (toAbove, _) := above.distance code
    some (if toBelow < toAbove then below
      else if toAbove < toBelow then above
      else if below.value % 2 == 0 then below else above)

/-- The shortest digits of a positive code. Seventeen digits always suffice. -/
def shortest (code : Nat) : Digits :=
  let first := decimalExponent (units code) unitsPerOne
  let grids := (List.range 17).map fun (count : Nat) => first - count
  (grids.findSome? (onGrid? code)).getD (gridNeighbours code (first - 16)).1

end Double

/-- How digits become text. -/
structure DecimalStyle where
  /-- The smallest power of ten of the first digit that is written without an exponent. -/
  positionalFrom : Int
  /-- The first power of ten that is written with an exponent again. -/
  positionalBelow : Int
  /-- Digits of the exponent at least. -/
  exponentWidth : Nat
  /-- What follows a single digit before an exponent. -/
  loneDigitTail : String
  nan : String
  infinity : String
  negativeInfinity : String

namespace DecimalStyle

/-- Splits digits at a place counted from their start, padding with zeros on either side. -/
def splitAt (digits : List Char) (place : Int) : List Char × List Char :=
  if place ≤ 0 then (['0'], List.replicate (-place).toNat '0' ++ digits)
  else
    let whole := digits.take place.toNat
    (whole ++ List.replicate (place.toNat - digits.length) '0', digits.drop place.toNat)

/-- The text of positive digits. -/
def digitsText (style : DecimalStyle) (digits : Double.Digits) : String :=
  let text := decimalDigits digits.value
  let significant := (text.reverse.dropWhile (· == '0')).reverse
  let first : Int := digits.exponent + text.length - 1
  if style.positionalFrom ≤ first && first < style.positionalBelow then
    let (whole, fraction) := splitAt significant (first + 1)
    String.ofList (whole ++ '.' :: if fraction.isEmpty then ['0'] else fraction)
  else
    let tail := if significant.length ≤ 1 then style.loneDigitTail.toList
      else '.' :: significant.drop 1
    let sign := if first < 0 then '-' else '+'
    String.ofList (significant.take 1 ++ tail ++ 'e' :: sign
      :: paddedDigits style.exponentWidth first.natAbs)

/-- The text of a number. -/
def text (style : DecimalStyle) : Double → String
  | .nan => style.nan
  | .infinite negative => if negative then style.negativeInfinity else style.infinity
  | .finite negative code =>
    let magnitude := if code = 0 then "0.0" else style.digitsText (Double.shortest code)
    if negative then "-" ++ magnitude else magnitude

end DecimalStyle

/-- Numbers inside texts: positional from 0.0001 up to below 10 to the power 16. -/
def plainDecimal : DecimalStyle where
  positionalFrom := -4
  positionalBelow := 16
  exponentWidth := 2
  loneDigitTail := ""
  nan := "nan"
  infinity := "inf"
  negativeInfinity := "-inf"

/-- The text of a number inside texts. -/
def Double.text (value : Double) : String :=
  plainDecimal.text value

end FormEngine
