import FormEngine.Fault

/-!
# Integers too long to be written

An integer of too many digits has no text here, and neither has a value that holds one. Such a
value can be kept and compared, but it can not be read as text or named in a message.
-/

namespace FormEngine

namespace Value

/-- Whether an integer has more digits than are written. -/
def isOverlong (value : Int) : Bool :=
  Numeral.digitLimit < (decimalDigits value.natAbs).length

mutual

/-- Whether a value is or holds an integer that is too long to be written. -/
def hasOverlong : Value → Bool
  | .int value => isOverlong value
  | .collection _ items => anyOverlong items
  | .map entries => anyEntryOverlong entries
  | _ => false

def anyOverlong : List Value → Bool
  | [] => false
  | item :: rest => item.hasOverlong || anyOverlong rest

def anyEntryOverlong : List (Value × Value) → Bool
  | [] => false
  | entry :: rest => entryOverlong entry || anyEntryOverlong rest

def entryOverlong : Value × Value → Bool
  | (key, value) => key.hasOverlong || value.hasOverlong

end

/-- The text of a value, if it has one. -/
def spell (value : Value) : Except Fault String :=
  if value.hasOverlong then .error .integerUnwritten else .ok value.text

end Value

namespace Fault

/-- The value that a message names. -/
def named? : Fault → Option Value
  | unknownField value | unknownFieldType value | indexOutOfRange _ value _
  | invalidTimestamp value | fieldNotObject value | fieldWithoutType value
  | optionWithoutText value | ruleWithoutKind value | ruleWithoutTrigger value
  | unsupportedFormat value => some value
  | _ => none

/-- What becomes of a fault when its message is made: one that would name what can not be written
gives way to the fault of writing it. -/
def told (fault : Fault) : Fault :=
  if fault.named?.any Value.hasOverlong then .integerUnwritten else fault

end Fault

end FormEngine
