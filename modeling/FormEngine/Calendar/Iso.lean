import FormEngine.Calendar.DateTime
import FormEngine.Number.Numeral
import FormEngine.Number.Shortest

/-!
# Dates and times in ISO 8601 text

The writer produces the extended format. The reader takes the extended and the basic format, week
dates, any character between date and time, and fractions with a point or a comma. It is lenient in
the ways its doc comments name.
-/

namespace FormEngine.Iso

open FormEngine.Numeral

-- Powers are those of the core library, whatever algebra is in scope beside this module.
attribute [local instance (high)] instPowNat

-- Sums start from the core library's zero, whatever algebra is in scope beside this module.
attribute [local instance (high)] Zero.ofOfNat0

/-- The date as year, month and day. -/
def dateText (date : Date) : List Char :=
  paddedDigits 4 date.year ++ '-' :: (paddedDigits 2 date.month ++ '-' :: paddedDigits 2 date.day)

/-- A fraction of six digits, left out when it is zero. -/
def fractionText (microsecond : Nat) : List Char :=
  if microsecond = 0 then [] else '.' :: paddedDigits 6 microsecond

/-- The time of day with seconds, and with a fraction if there is one. -/
def timeText (time : TimeOfDay) : List Char :=
  paddedDigits 2 time.hour ++ ':' :: (paddedDigits 2 time.minute ++ ':' ::
    (paddedDigits 2 time.second ++ fractionText time.microsecond))

/-- The offset as hours and minutes, with seconds only where it has any. -/
def offsetText (offset : Offset) : List Char :=
  let size := offset.east.natAbs
  let seconds := size / microsecondsPerSecond
  let fraction := size % microsecondsPerSecond
  let tail :=
    if seconds % 60 = 0 ∧ fraction = 0 then []
    else ':' :: (paddedDigits 2 (seconds % 60) ++ fractionText fraction)
  (if offset.east < 0 then '-' else '+') ::
    (paddedDigits 2 (seconds / 3600) ++ ':' :: (paddedDigits 2 (seconds / 60 % 60) ++ tail))

/-- A point in time, with the given character between date and time. -/
def dateTimeText (separator : Char) (moment : DateTime) : List Char :=
  dateText moment.date ++ separator :: (timeText moment.time ++
    match moment.offset with
    | none => []
    | some offset => offsetText offset)

/-- Takes exactly `count` digits. -/
def takeDigits (count : Nat) (text : List Char) : Option (Nat × List Char) :=
  let digits := text.take count
  if digits.length == count && digits.all isDigit then some (value digits, text.drop count)
  else none

/-- Takes the given character. -/
def takeChar (expected : Char) : List Char → Option (List Char)
  | c :: rest => if c == expected then some rest else none
  | [] => none

/-- Reads the week and the optional weekday of a week date, and ignores what follows. -/
def readWeek? (year : Nat) (dashed : Bool) (text : List Char) : Option Date := do
  let (week, rest) ← takeDigits 2 text
  if rest.isEmpty then Date.ofWeek? year week 1
  else
    let rest ← if dashed then takeChar '-' rest else some rest
    let (weekday, _) ← takeDigits 1 rest
    Date.ofWeek? year week weekday

/-- Reads month and day, and ignores what follows. -/
def readMonthDay? (year : Nat) (dashed : Bool) (text : List Char) : Option Date := do
  let (month, rest) ← takeDigits 2 text
  let rest ← if dashed then takeChar '-' rest else some rest
  let (day, _) ← takeDigits 2 rest
  Date.of? year month day

/-- Reads a date at the start of the text, with dashes everywhere or nowhere. -/
def readDatePrefix? (text : List Char) : Option Date := do
  let (year, rest) ← takeDigits 4 text
  let dashed := rest.head? == some '-'
  let rest := if dashed then rest.drop 1 else rest
  match rest with
  | 'W' :: week => readWeek? year dashed week
  | _ => readMonthDay? year dashed rest

/-- Bytes of the text in UTF-8. -/
def byteLength (text : List Char) : Nat :=
  (text.map Char.utf8Size).sum

/-- Reads a date. The text must have the length of a date; the lengths are those of the dashed
forms too, so two bytes behind an undashed date are let through. -/
def readDate? (text : List Char) : Option Date :=
  if [7, 8, 10].contains (byteLength text) then readDatePrefix? text else none

/-- Hours, minutes, seconds and microseconds as read, not yet checked against a day. -/
structure Clock where
  hour : Nat := 0
  minute : Nat := 0
  second : Nat := 0
  microsecond : Nat := 0

/-- A clock reading, with a flag for text left over behind it. -/
structure ClockReading where
  clock : Clock
  leftover : Bool

/-- Reads a fraction of a second: the first six digits count, further digits are dropped. -/
def readFraction? (clock : Clock) (text : List Char) : Option ClockReading := do
  let count := min 6 text.length
  let (digits, rest) ← takeDigits count text
  let tail := rest.dropWhile isDigit
  some {
    clock := { clock with microsecond := digits * 10 ^ (6 - count) }
    leftover := match tail with
      | [] => false
      | c :: _ => c != '\x00' }

/-- Enters the next component of a clock: the hour first, then minute and second. -/
def Clock.enter (clock : Clock) (entered value : Nat) : Clock :=
  match entered with
  | 0 => { clock with hour := value }
  | 1 => { clock with minute := value }
  | _ => { clock with second := value }

/-- Reads the components that are left, of two digits each. A colon behind the hour means that
colons separate them; a fraction may follow any component, and directly the last one. -/
def readComponents? (clock : Clock) (colons : Bool) (entered : Nat) (text : List Char) :
    Nat → Option ClockReading
  | 0 => readFraction? clock text
  | left + 1 => do
    let (component, rest) ← takeDigits 2 text
    let clock := clock.enter entered component
    match rest with
    | [] => some ⟨clock, false⟩
    | [last] => if last.toNat < 128 then some ⟨clock, last != '\x00'⟩ else none
    | c :: more =>
      let colons := if entered = 0 then c == ':' else colons
      if colons && c == ':' then readComponents? clock colons (entered + 1) more left
      else if c == '.' || c == ',' then readFraction? clock more
      else if colons then none
      else readComponents? clock colons (entered + 1) rest left

/-- Reads a clock from the whole text, up to leftovers. -/
def readClock? (text : List Char) : Option ClockReading :=
  readComponents? {} false 0 text 3

/-- Whether a character begins the offset. -/
def beginsOffset (c : Char) : Bool :=
  c == '+' || c == '-' || c == 'Z'

/-- The offset of a clock reading. One of less than a second is none at all. -/
def clockOffset? (west : Bool) (clock : Clock) : Option Offset :=
  let seconds := (clock.hour * 60 + clock.minute) * 60 + clock.second
  if seconds = 0 then some Offset.utc
  else
    let size : Int := (seconds * microsecondsPerSecond + clock.microsecond : Nat)
    Offset.of? (if west then -size else size)

/-- Reads the offset behind the time of day, from its first character on. -/
def readOffset? : List Char → Option (Option Offset)
  | [] => some none
  | 'Z' :: rest => if rest.head?.all (· == '\x00') then some (some Offset.utc) else none
  | sign :: rest => do
    let reading ← readClock? rest
    if reading.leftover then none
    else (clockOffset? (sign == '-') reading.clock).map some

/-- Reads the time of day with its optional offset. One stray ASCII character directly before an
offset is let through. -/
def readTime? (text : List Char) : Option (TimeOfDay × Option Offset) := do
  let clockText := text.takeWhile (!beginsOffset ·)
  let offsetText := text.dropWhile (!beginsOffset ·)
  let reading ← readClock? clockText
  if offsetText.isEmpty && reading.leftover then none
  else
    let offset ← readOffset? offsetText
    let time ← TimeOfDay.of? reading.clock.hour reading.clock.minute reading.clock.second
      reading.clock.microsecond
    some (time, offset)

/-- The length of the date at the start of a text with a time. A week date without dashes leaves
open whether a digit is its weekday: times come in pairs of digits, so their number decides. -/
def dateLength? (text : List Char) : Option Nat :=
  let isDigitAt (index : Nat) : Bool := text[index]?.any isDigit
  if byteLength text = 7 then some 7
  else if text[4]? == some '-' then
    if text[5]? == some 'W' then
      if text.length < 8 then none
      else if text[8]? == some '-' then
        if text.length = 9 then none
        else if isDigitAt 10 then some 8
        else some 10
      else some 8
    else some 10
  else if text[4]? == some 'W' then
    let last := 7 + ((text.drop 7).takeWhile isDigit).length
    if last < 9 then some last
    else if last % 2 = 0 then some 7
    else some 8
  else some 8

/-- Reads a date with an optional time behind it, one separating character apart. -/
def readDateTime? (text : List Char) : Option DateTime := do
  if byteLength text < 7 then none
  else
    let length ← dateLength? text
    let date ← readDatePrefix? (text.take length)
    match text.drop length with
    | [] => some ⟨date, TimeOfDay.midnight, none⟩
    | _ :: timeText =>
      let (time, offset) ← readTime? timeText
      some ⟨date, time, offset⟩

end FormEngine.Iso
