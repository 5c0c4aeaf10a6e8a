import FormEngine.Calendar.Iso
import FormEngine.Field.Basic
import FormEngine.Number.Numeral
import FormEngine.Table
import FormEngine.Text.Blank
import FormEngine.Value.Spelling

/-!
# Answers

What an answer means: whether it is empty, which number or date it stands for, and how long it is.
Validation and visibility share these rules.
-/

namespace FormEngine

namespace Double

/-- Whether the first number is at most the second; NaN is never. -/
def atMost (left right : Double) : Bool :=
  match Point.ofDouble? left, Point.ofDouble? right with
  | some p, some q => !q.before p
  | _, _ => false

/-- Whether the first number is less than the second; NaN is never. -/
def lessThan (left right : Double) : Bool :=
  match Point.ofDouble? left, Point.ofDouble? right with
  | some p, some q => p.before q
  | _, _ => false

end Double

namespace Value

/-- Whether an answer counts as empty. The type of the field matters in two cases: an unticked
checkbox is empty, and so is a number that is none. -/
def isEmptyAnswer (answer : Value) (type : Option FieldType) : Bool :=
  match answer with
  | .null => true
  | .str text => Text.isBlankText text
  | .collection _ items => items.isEmpty
  | .map entries => entries.isEmpty
  | .bool value => !value && type == some .checkbox
  | .float value => value.isNan && type == some .number
  | .int _ | .date _ | .dateTime _ => false

/-- The finite number that an answer stands for. Booleans are no numbers, and an integer past the
finite range is a fault. -/
def number? : Value → Except Fault (Option Double)
  | .int value => (Double.ofInt? value).elim (.error .integerToFloat) fun number => .ok (some number)
  | .float value => .ok value.finite?
  | .str text => .ok ((Numeral.readDouble? (Text.trim text)).bind Double.finite?)
  | _ => .ok none

/-- The text with every `Z` replaced by the offset it stands for. -/
def spellOutUtc (text : List Char) : List Char :=
  text.flatMap fun c => if c == 'Z' then ['+', '0', '0', ':', '0', '0'] else [c]

/-- The calendar date that an answer stands for. -/
def date? : Value → Option Date
  | .date day => some day
  | .dateTime moment => some moment.date
  | .str text =>
    let trimmed := Text.trimList text.toList
    (Iso.readDate? trimmed).or ((Iso.readDateTime? (spellOutUtc trimmed)).map (·.date))
  | _ => none

/-- The items of a collection, and the characters of the text of anything else. -/
def answerLength : Value → Except Fault Nat
  | .collection _ items => .ok items.length
  | answer => answer.spell.map String.length

/-- The items that item by item checks look at: those of a collection, or the answer itself. -/
def answerItems : Value → List Value
  | .collection _ items => items
  | answer => [answer]

/-- Whether the texts of all items pass a test; the first that does not ends the search. -/
def everyText (passes : String → Bool) : List Value → Except Fault Bool
  | [] => .ok true
  | item :: rest => do if passes (← item.spell) then everyText passes rest else return false

end Value

/-- The answers given so far, by field id. -/
abbrev Answers := Table Value

end FormEngine
