import FormEngine.Calendar.DateTime
import FormEngine.Number.Double

/-!
# Loosely typed values

Answers, rule parameters, default values and parsed documents are values of one dynamic type. Maps
keep the order of their entries, and their keys may be any values.
-/

namespace FormEngine

/-- The shapes of collections. A set holds no two equal items. -/
inductive Shape where
  | list
  | tuple
  | set
  deriving DecidableEq, Repr

/-- A loosely typed value. -/
inductive Value where
  | null
  | bool (value : Bool)
  | int (value : Int)
  | float (value : Double)
  | str (text : String)
  | date (day : Date)
  | dateTime (moment : DateTime)
  | collection (shape : Shape) (items : List Value)
  | map (entries : List (Value × Value))
  deriving Repr, Inhabited

namespace Value

/-- A list of values. -/
abbrev list (items : List Value) : Value := .collection .list items

/-- A map with text keys. -/
def record (entries : List (String × Value)) : Value :=
  .map (entries.map fun entry => (.str entry.1, entry.2))

/-- Whether a condition holds of the value: null, false, zero, and empty text, collections and maps
fail it. -/
def truthy : Value → Bool
  | .null => false
  | .bool value => value
  | .int value => value != 0
  | .float value => !value.isZero
  | .str text => text != ""
  | .date _ => true
  | .dateTime _ => true
  | .collection _ items => !items.isEmpty
  | .map entries => !entries.isEmpty

/-- The value, or another one where it fails a condition. -/
def orElse (value alternative : Value) : Value :=
  if value.truthy then value else alternative

/-- The kind of a value, as messages about wrong kinds name it. -/
def kindName : Value → String
  | .null => "NoneType"
  | .bool _ => "bool"
  | .int _ => "int"
  | .float _ => "float"
  | .str _ => "str"
  | .date _ => "datetime.date"
  | .dateTime _ => "datetime.datetime"
  | .collection .list _ => "list"
  | .collection .tuple _ => "tuple"
  | .collection .set _ => "set"
  | .map _ => "dict"

/-- The kind of a value without the family it belongs to. -/
def shortKindName : Value → String
  | .date _ => "date"
  | .dateTime _ => "datetime"
  | value => value.kindName

/-- Whether the value is a list, tuple or set. -/
def isCollection : Value → Bool
  | .collection .. => true
  | _ => false

/-- The text of a text value. -/
def text? : Value → Option String
  | .str text => some text
  | _ => none

mutual

/-- The first part of a value that can not be a key of a map: a list, a set or a map. -/
def unkeyable? : Value → Option Value
  | .collection .list items => some (.collection .list items)
  | .collection .set items => some (.collection .set items)
  | .collection .tuple items => firstUnkeyable? items
  | .map entries => some (.map entries)
  | _ => none

/-- The first part of the values that can not be a key. -/
def firstUnkeyable? : List Value → Option Value
  | [] => none
  | item :: rest => (unkeyable? item).or (firstUnkeyable? rest)

end

/-- The point of a number on the extended line. Booleans count as 0 and 1; NaN has none. -/
def point? : Value → Option Point
  | .bool value => some (.ofInt (if value then 1 else 0))
  | .int value => some (.ofInt value)
  | .float value => Point.ofDouble? value
  | _ => none

/-- Whether the value is a number or a boolean. -/
def isNumeric : Value → Bool
  | .bool _ | .int _ | .float _ => true
  | _ => false

end Value

/-- The value of a text key in the entries of a map. -/
def lookup (key : String) : List (Value × Value) → Option Value
  | [] => none
  | (.str text, value) :: rest => if text = key then some value else lookup key rest
  | _ :: rest => lookup key rest

end FormEngine
