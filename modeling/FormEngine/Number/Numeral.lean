import FormEngine.Number.Double
import FormEngine.Text.Blank
import FormEngine.Text.Digit

/-!
# Numerals

Reading numbers from text. A numeral may use the decimal digits of any script, may group digits by
single underscores and may have blanks around it.
-/

namespace FormEngine.Numeral

open FormEngine.Text

/-- An ASCII digit. -/
def isDigit (c : Char) : Bool :=
  '0' ≤ c && c ≤ '9'

/-- The number written by ASCII digits. -/
def value (digits : List Char) : Nat :=
  digits.foldl (fun total c => 10 * total + (c.toNat - '0'.toNat)) 0

/-- A decimal digit of any script becomes the ASCII digit of its value. -/
def asciiDigit (c : Char) : Char :=
  if c.toNat < 128 then c
  else match digitValue? c with
    | some digit => Char.ofNat ('0'.toNat + digit)
    | none => c

/-- A blank that may surround a numeral: the six ASCII ones and all beyond ASCII. -/
def isMargin (c : Char) : Bool :=
  if c.toNat < 127 then c == ' ' || (9 ≤ c.toNat && c.toNat ≤ 13) else isBlank c

/-- The characters of a numeral without its margins, in ASCII digits. -/
def normalise (text : String) : List Char :=
  let inner := ((text.toList.dropWhile isMargin).reverse.dropWhile isMargin).reverse
  inner.map asciiDigit

/-- Removes underscores that stand between two digits; any other underscore spoils the numeral. -/
def ungroup (afterDigit : Bool) : List Char → Option (List Char)
  | [] => some []
  | c :: rest =>
    if c == '_' then
      if afterDigit && rest.head?.any isDigit then ungroup false rest else none
    else (ungroup (isDigit c) rest).map (c :: ·)

/-- Splits off a sign. The flag tells a minus. -/
def splitSign : List Char → Bool × List Char
  | '-' :: rest => (true, rest)
  | '+' :: rest => (false, rest)
  | text => (false, text)

/-- The most digits of an integer that is read. -/
def digitLimit : Nat := 4300

/-- Reads an integer numeral. -/
def readInt? (text : String) : Option Int := do
  let (negative, body) := splitSign (normalise text)
  let digits ← ungroup false body
  if digits.isEmpty || !digits.all isDigit then none
  else some (if negative then -(value digits : Int) else value digits)

/-- Splits off the leading digits. -/
def spanDigits (text : List Char) : List Char × List Char :=
  (text.takeWhile isDigit, text.dropWhile isDigit)

/-- Reads an exponent part, or nothing at the end of the text. -/
def readExponent? : List Char → Option Int
  | [] => some 0
  | c :: rest =>
    if c == 'e' || c == 'E' then
      let (negative, digits) := splitSign rest
      if digits.isEmpty || !digits.all isDigit then none
      else some (if negative then -(value digits : Int) else value digits)
    else none

/-- Splits off a point with the digits behind it. -/
def splitFraction : List Char → List Char × List Char
  | '.' :: rest => spanDigits rest
  | text => ([], text)

/-- Reads an unsigned decimal numeral with at least one digit. -/
def readUnsigned? (negative : Bool) (text : List Char) : Option Double := do
  let (whole, afterWhole) := spanDigits text
  let (fraction, afterFraction) := splitFraction afterWhole
  if whole.isEmpty && fraction.isEmpty then none
  else
    let exponent ← readExponent? afterFraction
    some (.ofDecimal negative (value (whole ++ fraction)) (exponent - fraction.length))

/-- Reads a floating point numeral, or the name of an infinity or of NaN. -/
def readDouble? (text : String) : Option Double := do
  let body ← ungroup false (normalise text)
  let (negative, magnitude) := splitSign body
  match String.ofList (magnitude.map Char.toLower) with
  | "inf" | "infinity" => some (.infinite negative)
  | "nan" => some .nan
  | _ => readUnsigned? negative magnitude

end FormEngine.Numeral
