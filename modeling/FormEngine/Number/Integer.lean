import FormEngine.Fault
import FormEngine.Number.Numeral
import FormEngine.Text.Digit

/-!
# Texts that should be integers

Where an integer is asked for, a text that is none is a fault, and so is one of too many digits.
-/

namespace FormEngine

/-- Reads a text that should be an integer. -/
def readInteger (text : String) : Except Fault Int :=
  let digits := text.toList.countP Text.isDecimalDigit
  match Numeral.readInt? text with
  | none => .error (.notAnInteger 10 text)
  | some value =>
    if digits > Numeral.digitLimit then .error (.integerTooLong digits) else .ok value

/-- The letter that marks digits of a base. -/
def baseLetter : Nat → Char
  | 2 => 'b'
  | 8 => 'o'
  | _ => 'x'

/-- Digits without the mark of their base. -/
def withoutMark (base : Nat) : List Char → List Char
  | '0' :: letter :: digits =>
    if letter.toLower == baseLetter base then digits else '0' :: letter :: digits
  | digits => digits

/-- Reads a text that should be an integer in base 2, 8 or 16. The number of its digits does not
matter. -/
def readInBase (base : Nat) (text : String) : Except Fault Int :=
  let (negative, marked) := Numeral.splitSign (Numeral.normalise text)
  let digits := withoutMark base marked
  match Text.ofDigits? base digits with
  | some size =>
    if digits.isEmpty then .error (.notAnInteger base text)
    else .ok (if negative then -(size : Int) else size)
  | none => .error (.notAnInteger base text)

end FormEngine
