import FormEngine.Calendar.DateTime

/-!
# Ids and times

New ids and the present time come from outside as endless streams. How far a stream has been used
is part of the state, so that everything else is a function.
-/

namespace FormEngine

/-- A stream of ids. -/
structure IdSource where
  stream : Nat → String
  drawn : Nat := 0

namespace IdSource

/-- The next id, and the source after it. -/
def next (source : IdSource) : String × IdSource :=
  (source.stream source.drawn, { source with drawn := source.drawn + 1 })

/-- Ids that count up from 1 behind a text. -/
def counting (stem : String) : IdSource where
  stream index := stem ++ toString (index + 1)

/-- Given ids first, then ids that count up from 1. -/
def startingWith (ids : List String) (stem : String) : IdSource where
  stream index :=
    match ids[index]? with
    | some id => id
    | none => (counting stem).stream (index - ids.length)

/-- Given ids, of which the last repeats for ever. -/
def endingWith (ids : List String) : IdSource where
  stream index := (ids[min index (ids.length - 1)]?).getD ""

end IdSource

/-- A stream of times. -/
structure Clock where
  times : Nat → DateTime
  ticks : Nat := 0

namespace Clock

/-- The present time, and the clock after it was read. -/
def read (clock : Clock) : DateTime × Clock :=
  (clock.times clock.ticks, { clock with ticks := clock.ticks + 1 })

/-- A clock that stands still. -/
def still (moment : DateTime) : Clock where
  times _ := moment

end Clock

/-- Where new ids and the present time come from. -/
structure Supply where
  ids : IdSource
  clock : Clock

namespace Supply

/-- Draws an id. -/
def nextId (supply : Supply) : String × Supply :=
  let (id, ids) := supply.ids.next
  (id, { supply with ids })

/-- Reads the clock. -/
def now (supply : Supply) : DateTime × Supply :=
  let (time, clock) := supply.clock.read
  (time, { supply with clock })

end Supply

end FormEngine
