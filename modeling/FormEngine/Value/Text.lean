import FormEngine.Calendar.Iso
import FormEngine.Number.Shortest
import FormEngine.Text.Quoted
import FormEngine.Value.Basic

/-!
# The text of values

Values appear in messages and are matched against patterns as text. `display` writes a value so that
its kind can be read off, with quotes around text; `text` is the same except that text stands for
itself and dates stand in ISO format.
-/

namespace FormEngine.Value

open FormEngine.Text (quoted)

/-- Numbers separated by commas. -/
def commaSeparated (numbers : List Nat) : String :=
  ", ".intercalate (numbers.map fun number => String.ofList (decimalDigits number))

def showDate (day : Date) : String :=
  "datetime.date(" ++ commaSeparated [day.year, day.month, day.day] ++ ")"

/-- A part of a distance, left out when it is zero. -/
def showPart (name : String) (amount : Int) : List String :=
  if amount = 0 then [] else [name ++ "=" ++ intText amount]

/-- A distance in microseconds by days, seconds and microseconds, where only the days may be
negative. -/
def showDistance (distance : Int) : String :=
  let days := distance / (microsecondsPerDay : Int)
  let rest := distance % (microsecondsPerDay : Int)
  let seconds := rest / (microsecondsPerSecond : Int)
  let microseconds := rest % (microsecondsPerSecond : Int)
  "datetime.timedelta(" ++
    ", ".intercalate (showPart "days" days ++ showPart "seconds" seconds ++
      showPart "microseconds" microseconds) ++ ")"

/-- A distance from Coordinated Universal Time. -/
def showOffset (offset : Offset) : String :=
  if offset.east = 0 then "datetime.timezone.utc"
  else "datetime.timezone(" ++ showDistance offset.east ++ ")"

/-- A point in time by its components; trailing zero seconds and microseconds are left out. -/
def showDateTime (moment : DateTime) : String :=
  let time := moment.time
  let seconds :=
    if time.microsecond ≠ 0 then [time.second, time.microsecond]
    else if time.second ≠ 0 then [time.second]
    else []
  let zone := match moment.offset with
    | none => ""
    | some offset => ", tzinfo=" ++ showOffset offset
  "datetime.datetime(" ++
    commaSeparated ([moment.date.year, moment.date.month, moment.date.day, time.hour, time.minute]
      ++ seconds) ++ zone ++ ")"

/-- The items of a collection between its brackets. A tuple of one item keeps a comma. -/
def bracketed (shape : Shape) (items : List String) : String :=
  match shape, items with
  | .list, _ => "[" ++ ", ".intercalate items ++ "]"
  | .tuple, [item] => "(" ++ item ++ ",)"
  | .tuple, _ => "(" ++ ", ".intercalate items ++ ")"
  | .set, [] => "set()"
  | .set, _ => "\x7b" ++ ", ".intercalate items ++ "\x7d"

mutual

/-- The value as messages show it. -/
def display : Value → String
  | .null => "None"
  | .bool value => if value then "True" else "False"
  | .int value => intText value
  | .float value => value.text
  | .str text => quoted text
  | .date day => showDate day
  | .dateTime moment => showDateTime moment
  | .collection shape items => bracketed shape (showItems items)
  | .map entries => "\x7b" ++ ", ".intercalate (showEntries entries) ++ "\x7d"

def showItems : List Value → List String
  | [] => []
  | item :: rest => item.display :: showItems rest

def showEntries : List (Value × Value) → List String
  | [] => []
  | entry :: rest => showEntry entry :: showEntries rest

def showEntry : Value × Value → String
  | (key, value) => key.display ++ ": " ++ value.display

end

/-- The value as text. -/
def text : Value → String
  | .str text => text
  | .date day => String.ofList (Iso.dateText day)
  | .dateTime moment => String.ofList (Iso.dateTimeText ' ' moment)
  | value => value.display

end FormEngine.Value
