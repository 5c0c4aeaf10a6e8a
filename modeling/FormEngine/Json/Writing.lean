import FormEngine.Number.Shortest
import FormEngine.Sorting
import FormEngine.Text.Quoted
import FormEngine.Text.Unit
import FormEngine.Value.Order
import FormEngine.Value.Spelling

/-!
# Writing JSON

Objects are written with their keys in ascending order, one item a line, and in ASCII characters
only. Sets, dates, times and overlong integers have no JSON form, and keys must be texts, numbers,
booleans or null.
-/

namespace FormEngine.Json

open FormEngine.Text (halves hexDigits)

/-- A unit of sixteen bits as an escape. -/
def escapeUnit (code : Nat) : List Char :=
  '\\' :: 'u' :: hexDigits 4 code

/-- A character inside a string. -/
def escapeChar (c : Char) : List Char :=
  match c with
  | '"' => ['\\', '"']
  | '\\' => ['\\', '\\']
  | '\n' => ['\\', 'n']
  | '\r' => ['\\', 'r']
  | '\t' => ['\\', 't']
  | '\x08' => ['\\', 'b']
  | '\x0c' => ['\\', 'f']
  | c =>
    if ' ' ≤ c && c ≤ '~' then [c]
    else if c.toNat < 0x10000 then escapeUnit c.toNat
    else
      let (high, low) := halves c
      escapeUnit high ++ escapeUnit low

/-- A text as a string. -/
def stringText (text : String) : List Char :=
  '"' :: text.toList.flatMap escapeChar ++ ['"']

/-- Numbers as JSON writes them. -/
def numberStyle : DecimalStyle :=
  { plainDecimal with nan := "NaN", infinity := "Infinity", negativeInfinity := "-Infinity" }

/-- The string of a key. -/
def keyText : Value → Except Fault (List Char)
  | .str text => .ok (stringText text)
  | .null => .ok (stringText "null")
  | .bool value => .ok (stringText (if value then "true" else "false"))
  | .int value => (Value.spell (.int value)).map stringText
  | .float value => .ok (stringText (numberStyle.text value))
  | key => .error (.keyNotWritable key.shortKindName)

/-- A new line at a depth. -/
def newLine (depth : Nat) : List Char :=
  '\n' :: List.replicate (2 * depth) ' '

/-- Parts between brackets, each on a line of its own. -/
def enclosed (opening closing : Char) (depth : Nat) (parts : List (List Char)) : List Char :=
  if parts.isEmpty then [opening, closing]
  else
    let inner := newLine (depth + 1)
    opening :: inner ++ (',' :: inner).intercalate parts ++ newLine depth ++ [closing]

/-- Puts the keys of written entries in order. An entry that could not be written is a fault only
when its turn comes. -/
def orderEntries (written : List (Value × Except Fault (List Char))) :
    Except Fault (List (List Char)) := do
  let sorted ← Sorting.sort (fun left right => left.1.before right.1) written
  sorted.mapM fun entry => do return (← keyText entry.1) ++ ':' :: ' ' :: (← entry.2)

mutual

/-- Writes a value at a depth. -/
def writeAt (depth : Nat) : Value → Except Fault (List Char)
  | .null => .ok ['n', 'u', 'l', 'l']
  | .bool value => .ok (if value then ['t', 'r', 'u', 'e'] else ['f', 'a', 'l', 's', 'e'])
  | .int value => (Value.spell (.int value)).map String.toList
  | .float value => .ok (numberStyle.text value).toList
  | .str text => .ok (stringText text)
  | .collection .set items => .error (.notWritable (Value.shortKindName (.collection .set items)))
  | .collection _ items => (writeItems (depth + 1) items).map (enclosed '[' ']' depth)
  | .map entries =>
    (orderEntries (writeEntries (depth + 1) entries)).map (enclosed '{' '}' depth)
  | .date day => .error (.notWritable (Value.shortKindName (.date day)))
  | .dateTime moment => .error (.notWritable (Value.shortKindName (.dateTime moment)))

/-- Writes items in order. -/
def writeItems (depth : Nat) : List Value → Except Fault (List (List Char))
  | [] => .ok []
  | item :: rest => do
    let written ← writeAt depth item
    return written :: (← writeItems depth rest)

/-- Writes the values of entries. -/
def writeEntries (depth : Nat) :
    List (Value × Value) → List (Value × Except Fault (List Char))
  | [] => []
  | entry :: rest => writeEntry depth entry :: writeEntries depth rest

/-- Writes the value of an entry. -/
def writeEntry (depth : Nat) : Value × Value → Value × Except Fault (List Char)
  | (key, value) => (key, writeAt depth value)

end

/-- Writes a value. -/
def write (value : Value) : Except Fault String :=
  (writeAt 0 value).map String.ofList

end FormEngine.Json
