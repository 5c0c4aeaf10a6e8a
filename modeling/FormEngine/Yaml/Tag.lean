import FormEngine.Number.Numeral

/-!
# YAML tags

A tag says what kind of value a node stands for. A plain scalar without a tag gets the tag of the
first notation that its text fits, and is text if it fits none.
-/

namespace FormEngine.Yaml

/-- The kinds of values. -/
inductive Tag where
  | null
  | bool
  | int
  | float
  | timestamp
  | str
  /-- The key of maps whose entries are merged in. -/
  | merge
  /-- The key of the default value of a map. -/
  | value
  | sequence
  | mapping
  | set
  | orderedMap
  | pairs
  /-- A tag that has no meaning here. -/
  | unknown
  deriving DecidableEq, Repr

namespace Tag

/-- What the names of the common tags begin with. -/
def commonStem : String := "tag:yaml.org,2002:"

/-- The common tags with what follows in their names. -/
def commonNames : List (String × Tag) :=
  [("null", .null), ("bool", .bool), ("int", .int), ("float", .float), ("timestamp", .timestamp),
    ("str", .str), ("merge", .merge), ("value", .value), ("seq", .sequence), ("map", .mapping),
    ("set", .set), ("omap", .orderedMap), ("pairs", .pairs)]

/-- The tag with a name. -/
def ofName (name : String) : Tag :=
  ((commonNames.find? fun entry => commonStem ++ entry.1 == name).map (·.2)).getD .unknown

/-- Whether nodes of the kind are built in two steps, first as such and then with their parts. -/
def isCollection : Tag → Bool
  | .sequence | .mapping | .set | .orderedMap | .pairs => true
  | _ => false

/-- The short form of a tag. -/
def shorthand (tag : Tag) : String :=
  "!!" ++ ((commonNames.find? (·.2 == tag)).map (·.1)).getD ""

end Tag

open Numeral (isDigit)

/-- A digit or the underscore that groups digits. -/
def isGroupedDigit (c : Char) : Bool :=
  isDigit c || c == '_'

/-- The text without a sign. -/
def withoutSign : List Char → List Char
  | '+' :: rest => rest
  | '-' :: rest => rest
  | text => text

/-- Whether the text is parts of a clock, each behind a colon and below sixty. -/
def isSixties : List Char → Bool
  | [] => false
  | [':', a] => isDigit a
  | [':', a, b] => '0' ≤ a && a ≤ '5' && isDigit b
  | ':' :: a :: ':' :: rest => isDigit a && isSixties (':' :: rest)
  | ':' :: a :: b :: rest => '0' ≤ a && a ≤ '5' && isDigit b && isSixties rest
  | _ => false

/-- Truth values have six words, each in three spellings. -/
def boolWords : List (String × Bool) :=
  [("yes", true), ("no", false), ("true", true), ("false", false), ("on", true), ("off", false)]

/-- A word in small letters, with a capital, and in capitals. -/
def spellings (word : String) : List String :=
  [word, word.capitalize, word.toUpper]

def isBoolText (text : String) : Bool :=
  boolWords.any fun word => (spellings word.1).contains text

def isNullText (text : String) : Bool :=
  text == "" || text == "~" || (spellings "null").contains text

/-- Whether the text is an integer in binary, octal, decimal, hexadecimal or clock notation. -/
def isIntText (text : List Char) : Bool :=
  match withoutSign text with
  | ['0'] => true
  | '0' :: 'b' :: digits =>
    !digits.isEmpty && digits.all fun c => c == '0' || c == '1' || c == '_'
  | '0' :: 'x' :: digits =>
    !digits.isEmpty && digits.all fun c =>
      isGroupedDigit c || 'a' ≤ c && c ≤ 'f' || 'A' ≤ c && c ≤ 'F'
  | '0' :: digits => digits.all fun c => '0' ≤ c && c ≤ '7' || c == '_'
  | first :: rest =>
    let tail := rest.dropWhile isGroupedDigit
    isDigit first && (tail.isEmpty || isSixties tail)
  | [] => false

/-- Whether the text is an exponent with its sign, or nothing. -/
def isExponent : List Char → Bool
  | [] => true
  | letter :: sign :: digits =>
    (letter == 'e' || letter == 'E') && (sign == '+' || sign == '-') && !digits.isEmpty &&
      digits.all isDigit
  | _ => false

/-- Whether the text is a number with a point: digits on the left, perhaps clock parts, and on the
right digits and an exponent. -/
def isPointedText (text : List Char) : Bool :=
  match text with
  | first :: rest =>
    let afterWhole := rest.dropWhile isGroupedDigit
    let clock := afterWhole.takeWhile (· != '.')
    match afterWhole.drop clock.length with
    | '.' :: fraction =>
      let tail := fraction.dropWhile isGroupedDigit
      isDigit first && if clock.isEmpty then isExponent tail else isSixties clock && tail.isEmpty
    | _ => false
  | [] => false

/-- Whether the text is a number with a point, an infinity or NaN. -/
def isFloatText (text : List Char) : Bool :=
  match text with
  | '.' :: first :: rest =>
    isDigit first && isExponent (rest.dropWhile isGroupedDigit)
      || (spellings "inf" ++ ["nan", "NaN", "NAN"]).contains (String.ofList (first :: rest))
  | _ =>
    match withoutSign text with
    | '.' :: name => (spellings "inf").contains (String.ofList name)
    | unsigned => isPointedText unsigned

/-- The parts of a timestamp as they are written. -/
structure TimestampText where
  year : Nat
  month : Nat
  day : Nat
  /-- Hour, minute and second. -/
  clock : Option (Nat × Nat × Nat) := none
  /-- The digits of the fraction of the second. -/
  fraction : List Char := []
  /-- Whether the offset is to the west, and its hours and minutes. -/
  offset : Option (Bool × Nat × Nat) := none

/-- Takes up to `most` digits, and at least `least`. -/
def takeNumber? (least most : Nat) (text : List Char) : Option (Nat × List Char) :=
  let digits := (text.take most).takeWhile isDigit
  if digits.length < least then none
  else some (Numeral.value digits, text.drop digits.length)

/-- Takes a character. -/
def takeSign? (sign : Char) : List Char → Option (List Char)
  | c :: rest => if c == sign then some rest else none
  | [] => none

/-- Takes the minutes of an offset, if there are any. -/
def readOffsetMinutes? : List Char → Option Nat
  | [] => some 0
  | text => do
    let (minutes, rest) ← takeNumber? 2 2 (← takeSign? ':' text)
    if rest.isEmpty then some minutes else none

/-- Reads the offset at the end of a timestamp. -/
def readTimestampOffset? (text : List Char) : Option (Option (Bool × Nat × Nat)) :=
  match text.dropWhile fun c => c == ' ' || c == '\t' with
  | [] => if text.isEmpty then some none else none
  | ['Z'] => some (some (false, 0, 0))
  | sign :: rest =>
    if sign == '+' || sign == '-' then do
      let (hours, rest) ← takeNumber? 1 2 rest
      return some (sign == '-', hours, ← readOffsetMinutes? rest)
    else none

/-- Takes what separates a date from a time. -/
def takeDateEnd? : List Char → Option (List Char)
  | c :: rest =>
    if c == 'T' || c == 't' then some rest
    else if c == ' ' || c == '\t' then some (rest.dropWhile fun c => c == ' ' || c == '\t')
    else none
  | [] => none

/-- Takes the fraction of a second, if there is one. -/
def takeFractionDigits : List Char → List Char × List Char
  | '.' :: rest => (rest.takeWhile isDigit, rest.dropWhile isDigit)
  | text => ([], text)

/-- Reads a timestamp. Month and day may have one digit. -/
def readTimestamp? (text : List Char) : Option TimestampText := do
  let (year, rest) ← takeNumber? 4 4 text
  let (month, rest) ← takeNumber? 1 2 (← takeSign? '-' rest)
  let (day, rest) ← takeNumber? 1 2 (← takeSign? '-' rest)
  if rest.isEmpty then return { year, month, day }
  else
    let (hour, rest) ← takeNumber? 1 2 (← takeDateEnd? rest)
    let (minute, rest) ← takeNumber? 2 2 (← takeSign? ':' rest)
    let (second, rest) ← takeNumber? 2 2 (← takeSign? ':' rest)
    let (fraction, rest) := takeFractionDigits rest
    return {
      year, month, day, fraction
      clock := some (hour, minute, second)
      offset := ← readTimestampOffset? rest }

/-- Whether the text is a timestamp. A date alone has two digits for month and day. -/
def isTimestampText (text : List Char) : Bool :=
  match readTimestamp? text with
  | some parts => parts.clock.isSome || text.length == 10
  | none => false

/-- The tag of a plain scalar. -/
def plainTag (text : String) : Tag :=
  let characters := text.toList
  if isBoolText text then .bool
  else if isFloatText characters then .float
  else if isIntText characters then .int
  else if text == "<<" then .merge
  else if isNullText text then .null
  else if isTimestampText characters then .timestamp
  else if text == "=" then .value
  else .str

end FormEngine.Yaml
