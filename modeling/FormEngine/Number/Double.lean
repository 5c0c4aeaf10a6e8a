/-!
# Binary floating point

Numbers of the binary64 format as data: a sign and the place of the magnitude in the ascending row
of all finite magnitudes. Every operation is exact integer arithmetic, so rounding, comparison and
printing can be reasoned about and evaluated. The unit of all exact values is the smallest positive
number, 2 to the power -1074.
-/

namespace FormEngine

/-- A binary64 number. The `code` of a finite number counts the representable magnitudes below it,
so zero has code 0 and the smallest positive number has code 1. -/
inductive Double where
  | nan
  | infinite (negative : Bool)
  | finite (negative : Bool) (code : Nat)
  deriving DecidableEq, Repr, Inhabited

namespace Double

-- Powers are those of the core library, whatever algebra is in scope beside this module.
attribute [local instance (high)] instPowNat

/-- Magnitudes with one binary exponent, and the first significand that needs no leading zeros. -/
def significandBase : Nat := 2 ^ (52 : Nat)

/-- Smallest positive numbers in one. -/
def unitsPerOne : Nat := 2 ^ (1074 : Nat)

/-- The first code past the finite numbers. -/
def codeLimit : Nat := 2047 * significandBase

/-- The exact magnitude of a code, in units. -/
def units (code : Nat) : Nat :=
  if code < significandBase then code
  else (significandBase + code % significandBase) * 2 ^ (code / significandBase - 1)

/-- The quotient rounded to the nearest integer, a half to the even neighbour. -/
def roundQuotient (numerator denominator : Nat) : Nat :=
  let quotient := numerator / denominator
  let twice := 2 * (numerator % denominator)
  if twice < denominator then quotient
  else if denominator < twice then quotient + 1
  else quotient + quotient % 2

/-- The code nearest to a ratio of units. -/
def nearestCode (numerator denominator : Nat) : Nat :=
  let whole := numerator / denominator
  let shift := if whole < 2 * significandBase then 0 else Nat.log2 whole - 52
  shift * significandBase + roundQuotient numerator (denominator * 2 ^ shift)

/-- The number nearest to a ratio; ratios past the finite range round to infinity. -/
def ofRatio (negative : Bool) (numerator denominator : Nat) : Double :=
  let code := nearestCode (numerator * unitsPerOne) denominator
  if code < codeLimit then .finite negative code else .infinite negative

def isNan : Double → Bool
  | .nan => true
  | _ => false

def isFinite : Double → Bool
  | .finite .. => true
  | _ => false

/-- The number kept only if it is finite. -/
def finite? (number : Double) : Option Double :=
  if number.isFinite then some number else none

/-- The number nearest to an integer, unless the integer is past the finite range. -/
def ofInt? (value : Int) : Option Double :=
  (ofRatio (decide (value < 0)) value.natAbs 1).finite?

/-- Decimal exponents beyond which a numeral is zero or infinite whatever its digits. -/
def exponentBound : Nat := 400

/-- The number nearest to `digits` times ten to the power `exponent`. A numeral far outside the
range is decided by its size alone, so that no huge power is computed. -/
def ofDecimal (negative : Bool) (digits : Nat) (exponent : Int) : Double :=
  let size : Int := (Nat.toDigits 10 digits).length + exponent
  if digits = 0 then .finite negative 0
  else if size > exponentBound then .infinite negative
  else if size < -exponentBound then .finite negative 0
  else if exponent ≥ 0 then ofRatio negative (digits * 10 ^ exponent.toNat) 1
  else ofRatio negative digits (10 ^ (-exponent).toNat)

/-- Whether the number is zero, of either sign. -/
def isZero : Double → Bool
  | .finite _ code => code == 0
  | _ => false

/-- The number with the other sign. -/
def negate : Double → Double
  | .nan => .nan
  | .infinite negative => .infinite (!negative)
  | .finite negative code => .finite (!negative) code

/-- The exact value of a code with a sign, in units. -/
def signedUnits (negative : Bool) (code : Nat) : Int :=
  if negative then -(units code : Int) else units code

/-- The rounded sum. -/
def add : Double → Double → Double
  | .nan, _ | _, .nan => .nan
  | .infinite a, .infinite b => if a = b then .infinite a else .nan
  | .infinite a, .finite .. | .finite .., .infinite a => .infinite a
  | .finite a x, .finite b y =>
    let sum := signedUnits a x + signedUnits b y
    if sum = 0 then .finite (a && b) 0 else ofRatio (decide (sum < 0)) sum.natAbs unitsPerOne

/-- The rounded product. -/
def multiply : Double → Double → Double
  | .nan, _ | _, .nan => .nan
  | .infinite a, .infinite b => .infinite (a != b)
  | .infinite a, .finite b code | .finite b code, .infinite a =>
    if code = 0 then .nan else .infinite (a != b)
  | .finite a x, .finite b y => ofRatio (a != b) (units x * units y) (unitsPerOne * unitsPerOne)

/-- The integer part of a finite number. -/
def truncate? : Double → Option Int
  | .finite negative code =>
    let whole : Int := units code / unitsPerOne
    some (if negative then -whole else whole)
  | _ => none

end Double

/-- A point of the extended number line. Finite points count units, so integers and finite
floating point numbers share one exact order. -/
inductive Point where
  | least
  | exact (units : Int)
  | greatest
  deriving DecidableEq, Repr

namespace Point

/-- The point of an integer. -/
def ofInt (value : Int) : Point :=
  .exact (value * Double.unitsPerOne)

/-- The point of a number; NaN has none. -/
def ofDouble? : Double → Option Point
  | .nan => none
  | .infinite negative => some (if negative then .least else .greatest)
  | .finite negative code =>
    let magnitude : Int := Double.units code
    some (.exact (if negative then -magnitude else magnitude))

/-- The order of the extended line. -/
def before : Point → Point → Bool
  | .least, .least => false
  | .least, _ => true
  | .exact _, .least => false
  | .exact left, .exact right => decide (left < right)
  | .exact _, .greatest => true
  | .greatest, _ => false

end Point

end FormEngine
