import FormEngine.Calendar.Date

/-!
# Points in time

A time of day with microseconds on a calendar date, either local or with its distance from
Coordinated Universal Time.
-/

namespace FormEngine

def microsecondsPerSecond : Nat := 1000000

def microsecondsPerDay : Nat := 86400 * microsecondsPerSecond

/-- A time of day. -/
structure TimeOfDay where
  hour : Nat
  minute : Nat
  second : Nat
  microsecond : Nat
  in_day : hour < 24 ∧ minute < 60 ∧ second < 60 ∧ microsecond < 1000000
  deriving DecidableEq

namespace TimeOfDay

instance : Repr TimeOfDay where
  reprPrec time _ := repr (time.hour, time.minute, time.second, time.microsecond)

/-- The named time, if a day has it. -/
def of? (hour minute second microsecond : Nat) : Option TimeOfDay :=
  if h : hour < 24 ∧ minute < 60 ∧ second < 60 ∧ microsecond < 1000000 then
    some ⟨hour, minute, second, microsecond, h⟩
  else none

def midnight : TimeOfDay := ⟨0, 0, 0, 0, by decide⟩

instance : Inhabited TimeOfDay := ⟨midnight⟩

/-- Microseconds since midnight. -/
def sinceMidnight (time : TimeOfDay) : Nat :=
  ((time.hour * 60 + time.minute) * 60 + time.second) * microsecondsPerSecond + time.microsecond

end TimeOfDay

/-- A distance from Coordinated Universal Time of less than a day, in microseconds east. -/
structure Offset where
  east : Int
  within_day : east.natAbs < 86400000000
  deriving DecidableEq

namespace Offset

instance : Repr Offset where
  reprPrec offset _ := repr offset.east

/-- The distance, if it is less than a day. -/
def of? (east : Int) : Option Offset :=
  if h : east.natAbs < 86400000000 then some ⟨east, h⟩ else none

def utc : Offset := ⟨0, by decide⟩

end Offset

/-- A date with a time of day; without an offset the time is local to the reader. -/
structure DateTime where
  date : Date
  time : TimeOfDay
  offset : Option Offset
  deriving DecidableEq, Repr, Inhabited

namespace DateTime

/-- Microseconds of local time since the day before year 1. -/
def localInstant (moment : DateTime) : Int :=
  (moment.date.ordinal * microsecondsPerDay + moment.time.sinceMidnight : Nat)

/-- Whether two values denote the same time. Times with an offset are compared as instants, local
times by their reading; a local time never equals one with an offset. -/
def same (left right : DateTime) : Bool :=
  match left.offset, right.offset with
  | none, none => left.localInstant == right.localInstant
  | some l, some r => left.localInstant - l.east == right.localInstant - r.east
  | _, _ => false

/-- The order of two local times, or of two instants; other pairs have none. -/
def before? (left right : DateTime) : Option Bool :=
  match left.offset, right.offset with
  | none, none => some (left.localInstant < right.localInstant)
  | some l, some r => some (left.localInstant - l.east < right.localInstant - r.east)
  | _, _ => none

/-- The start of 2024 in Coordinated Universal Time, plus whole minutes of that day. -/
def startOf2024 : DateTime :=
  ⟨⟨2024, 1, 1, by decide⟩, TimeOfDay.midnight, some Offset.utc⟩

end DateTime

end FormEngine
