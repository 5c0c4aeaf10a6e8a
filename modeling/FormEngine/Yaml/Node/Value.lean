import FormEngine.Number.Integer
import FormEngine.Text.Case
import FormEngine.Value.Entries
import FormEngine.Yaml.Node.Basic

/-!
# The values of YAML nodes

The tag of a node decides how it is read. Most mistakes make the whole text no YAML; numbers and
dates that only look right are faults of their own.

A tree is read level by level: the nodes of one depth come before those below them, whichever
parents they have. Where several nodes are wrong, the first in this order is the one that counts.
-/

namespace FormEngine.Yaml

-- Powers are those of the core library, whatever algebra is in scope beside this module.
attribute [local instance (high)] instPowNat

/-- The parts of a clock notation. -/
def clockParts (text : List Char) : List String :=
  (text.splitOn ':').map String.ofList

/-- The digits of a number without the underscores that group them. -/
def ungrouped (text : String) : List Char :=
  text.toList.filter (· != '_')

/-- Reads the size of an integer. -/
def readSize (size : List Char) : Except Fault Int :=
  match size with
  | [] => .error .emptyNumber
  | ['0'] => .ok 0
  | '0' :: 'b' :: digits => readInBase 2 (String.ofList digits)
  | '0' :: 'x' :: digits => readInBase 16 (String.ofList digits)
  | '0' :: _ => readInBase 8 (String.ofList size)
  | _ =>
    if size.contains ':' then do
      let parts ← (clockParts size).mapM readInteger
      return parts.foldl (fun total part => 60 * total + part) 0
    else readInteger (String.ofList size)

/-- Reads an integer. -/
def readIntText (text : String) : Except Fault Int := do
  let digits := ungrouped text
  let size ← readSize (withoutSign digits)
  return if digits.head? == some '-' then -size else size

/-- Reads a number that should have a decimal notation. -/
def readDecimal (text : String) : Except Fault Double :=
  match Numeral.readDouble? text with
  | some value => .ok value
  | none => .error (.notADecimal text)

/-- Adds a clock part to a total with the factor of the part. The next part counts sixty times as
much, which stops when the factor is no number any more. -/
def addClockPart (sum : Double × Nat) (part : Double) : Except Fault (Double × Nat) :=
  (Double.ofInt? sum.2).elim (.error .integerToFloat) fun weight =>
    .ok (sum.1.add (part.multiply weight), 60 * sum.2)

/-- The sum of clock parts, the least first. -/
def sumClockParts (parts : List Double) : Except Fault Double := do
  return (← parts.foldlM addClockPart (.finite false 0, 1)).1

/-- Reads the size of a floating point number. -/
def readFloatSize (size : List Char) : Except Fault Double :=
  match String.ofList size with
  | ".inf" => .ok (.infinite false)
  | ".nan" => .ok .nan
  | text =>
    if size.contains ':' then do
      let parts ← (clockParts size).mapM readDecimal
      sumClockParts parts.reverse
    else readDecimal text

/-- Reads a floating point number. -/
def readFloatText (text : String) : Except Fault Double := do
  let digits := (Text.lowerCase (String.ofList (ungrouped text))).toList
  if digits.isEmpty then throw .emptyNumber
  else
    let size ← readFloatSize (withoutSign digits)
    return if digits.head? == some '-' then size.negate else size

/-- The day of a timestamp. -/
def timestampDate (parts : TimestampText) : Except Fault Date :=
  match Date.of? parts.year parts.month parts.day with
  | some day => .ok day
  | none =>
    .error (.notInCalendar
      (if parts.year = 0 then .year parts.year
        else if parts.month < 1 || 12 < parts.month then .month
        else .day))

/-- The time of day of a timestamp. -/
def timestampTime (hour minute second : Nat) (fraction : List Char) : Except Fault TimeOfDay :=
  let digits := fraction.take 6
  let microsecond := Numeral.value digits * 10 ^ (6 - digits.length)
  match TimeOfDay.of? hour minute second microsecond with
  | some time => .ok time
  | none =>
    .error (.notInCalendar
      (if hour > 23 then .hour else if minute > 59 then .minute else .second))

/-- The offset of a timestamp. -/
def timestampOffset : Option (Bool × Nat × Nat) → Except Fault (Option Offset)
  | none => .ok none
  | some (west, hours, minutes) =>
    let size : Int := ((hours * 60 + minutes) * 60 * microsecondsPerSecond : Nat)
    let east := if west then -size else size
    match Offset.of? east with
    | some offset => .ok (some offset)
    | none => .error (.notInCalendar (.offset (Value.showDistance east)))

/-- A text without the line break at its end. -/
def withoutFinalBreak (text : List Char) : List Char :=
  if text.getLast? == some '\n' then text.dropLast else text

/-- The value of a timestamp. -/
def readTimestampText (text : String) : Except Fault Value :=
  match readTimestamp? (withoutFinalBreak text.toList) with
  | none => .error (.missingPart Value.null.kindName "groupdict")
  | some parts =>
    match parts.clock with
    | none => do return .date (← timestampDate parts)
    | some (hour, minute, second) => do
      let offset ← timestampOffset parts.offset
      let date ← timestampDate parts
      let time ← timestampTime hour minute second parts.fraction
      return .dateTime ⟨date, time, offset⟩

/-- The value of a scalar. -/
def scalarValue (tag : Tag) (text : String) : Except Fault Value :=
  match tag with
  | .null => .ok .null
  | .str => .ok (.str text)
  | .bool =>
    let word := Text.lowerCase text
    match boolWords.find? (·.1 == word) with
    | some (_, value) => .ok (.bool value)
    | none => .error (.notATruthValue word)
  | .int => do return .int (← readIntText text)
  | .float => do return .float (← readFloatText text)
  | .timestamp => readTimestampText text
  | .merge | .value | .sequence | .mapping | .set | .orderedMap | .pairs | .unknown =>
    .error .invalidYaml

mutual

/-- The text of a node that should be a scalar. A map may hold it under the key `=`. -/
def scalarText? : Node → Option String
  | .scalar _ text => some text
  | .sequence .. => none
  | .mapping _ entries => defaultText? entries

/-- The text under the first key `=`. -/
def defaultText? : List (Node × Node) → Option String
  | [] => none
  | entry :: rest => if entry.1.tag == .value then entryText? entry else defaultText? rest

def entryText? : Node × Node → Option String
  | (_, value) => scalarText? value

end

/-- The value of a node that is read as a scalar of a kind. The text of a timestamp must be that of
the node itself. -/
def valueAs (tag : Tag) (node : Node) : Except Fault Value :=
  match node, scalarText? node with
  | .mapping .., some text =>
    if tag = .timestamp then .error .notSearchable else scalarValue tag text
  | _, some text => scalarValue tag text
  | _, none => .error .invalidYaml

/-- The value of a key, which is a scalar. -/
def keyValue (key : Node) : Except Fault Value :=
  valueAs (if key.tag = .value then .str else key.tag) key

/-- A fault with the depth at which it lies. -/
structure DeepFault where
  depth : Nat
  fault : Fault

/-- What reading a part of a tree gives. -/
abbrev Construction (α : Type) := Except DeepFault α

namespace Construction

variable {α β : Type}

/-- A result at a depth. -/
def atDepth (depth : Nat) (result : Except Fault α) : Construction α :=
  result.mapError fun fault => ⟨depth, fault⟩

/-- Two parts together. Of two faults the less deep one counts, and the first where they are equally
deep. -/
def both (first : Construction α) (second : Construction β) : Construction (α × β) :=
  match first, second with
  | .ok a, .ok b => .ok (a, b)
  | .ok _, .error fault => .error fault
  | .error fault, .ok _ => .error fault
  | .error fault, .error other => .error (if other.depth < fault.depth then other else fault)

/-- A part before a list of parts. -/
def cons (first : Construction α) (rest : Construction (List α)) : Construction (List α) :=
  (first.both rest).map fun parts => parts.1 :: parts.2

/-- A list of parts before another one. -/
def append (first second : Construction (List α)) : Construction (List α) :=
  (first.both second).map fun parts => parts.1 ++ parts.2

end Construction

/-- Whether a key asks for entries to be merged in. -/
def isMergeKey (key : Node) : Bool :=
  key.tag == .merge

mutual

/-- Whether a node can be merged into a map: it is a map or a list of maps, and so is whatever is
merged into them. -/
def isMergeable : Node → Bool
  | .scalar .. => false
  | .sequence _ items => areMergeableMaps items
  | .mapping _ entries => mergesWell entries

def areMergeableMaps : List Node → Bool
  | [] => true
  | item :: rest => isMergeableMap item && areMergeableMaps rest

def isMergeableMap : Node → Bool
  | .mapping _ entries => mergesWell entries
  | _ => false

/-- Whether all that entries ask to be merged in can be. -/
def mergesWell : List (Node × Node) → Bool
  | [] => true
  | entry :: rest => entryMergesWell entry && mergesWell rest

def entryMergesWell : Node × Node → Bool
  | (key, value) => !isMergeKey key || isMergeable value

end

/-- The entries of a map: those that are merged in, and its own. -/
structure MergedEntries where
  merged : Construction (List (Value × Value)) := .ok []
  own : Construction (List (Value × Value)) := .ok []

/-- Own entries come last, so that they count. -/
def MergedEntries.all (entries : MergedEntries) : Construction (List (Value × Value)) :=
  entries.merged.append entries.own

/-- Entries before others. -/
def MergedEntries.before (first second : MergedEntries) : MergedEntries where
  merged := first.merged.append second.merged
  own := first.own.append second.own

mutual

/-- The value of a node at a depth. The parts of a collection lie one level below it, and so do
faults of its kind and of what is merged into it. -/
def nodeValue (depth : Nat) : Node → Construction Value
  | .scalar tag text =>
    .atDepth (if tag.isCollection then depth + 1 else depth) (scalarValue tag text)
  | .sequence tag items =>
    match tag with
    | .sequence => (nodeValues (depth + 1) items).map .list
    | .orderedMap | .pairs => (pairValues (depth + 1) items).map .list
    | .mapping | .set => .atDepth (depth + 1) (.error .invalidYaml)
    | _ => .atDepth depth (.error .invalidYaml)
  | .mapping tag entries =>
    match tag with
    | .mapping =>
      if mergesWell entries then
        (entriesOf (depth + 1) entries).all.map fun read => .map (Entries.ofList read)
      else .atDepth (depth + 1) (.error .invalidYaml)
    | .set =>
      if mergesWell entries then
        (entriesOf (depth + 1) entries).all.map fun read =>
          .collection .set (Value.distinctItems (read.map (·.1)))
      else .atDepth (depth + 1) (.error .invalidYaml)
    | .sequence | .orderedMap | .pairs => .atDepth (depth + 1) (.error .invalidYaml)
    | _ => .atDepth depth (valueAs tag (.mapping tag entries))

/-- The values of nodes. -/
def nodeValues (depth : Nat) : List Node → Construction (List Value)
  | [] => .ok []
  | item :: rest => (nodeValue depth item).cons (nodeValues depth rest)

/-- The values of maps of one entry each, as pairs. -/
def pairValues (depth : Nat) : List Node → Construction (List Value)
  | [] => .ok []
  | item :: rest => (pairValue depth item).cons (pairValues depth rest)

/-- The value of a map of one entry, as a pair. -/
def pairValue (depth : Nat) : Node → Construction Value
  | .mapping _ entries => onlyEntry depth entries
  | _ => .atDepth depth (.error .invalidYaml)

/-- The only entry of a map, whatever its key. -/
def onlyEntry (depth : Nat) : List (Node × Node) → Construction Value
  | [entry] => (plainEntry depth entry).map fun pair => .collection .tuple [pair.1, pair.2]
  | _ => .atDepth depth (.error .invalidYaml)

def plainEntry (depth : Nat) : Node × Node → Construction (Value × Value)
  | (key, value) => (nodeValue depth key).both (nodeValue depth value)

/-- The entries of a map with those that are merged in. -/
def entriesOf (depth : Nat) : List (Node × Node) → MergedEntries
  | [] => {}
  | entry :: rest => (entryOf depth entry).before (entriesOf depth rest)

/-- What one entry of a map gives. -/
def entryOf (depth : Nat) : Node × Node → MergedEntries
  | (key, value) =>
    if isMergeKey key then { merged := mergedEntries depth value }
    else
      let entry := (Construction.atDepth depth (keyValue key)).both (nodeValue depth value)
      { own := entry.map fun pair => [pair] }

/-- The entries that are merged in: those of a map, or those of several maps, the first of which
count most. -/
def mergedEntries (depth : Nat) : Node → Construction (List (Value × Value))
  | .mapping _ entries => (entriesOf depth entries).all
  | .sequence _ items => mapsEntries depth items
  | .scalar .. => .ok []

/-- The entries of several maps, the last one first. -/
def mapsEntries (depth : Nat) : List Node → Construction (List (Value × Value))
  | [] => .ok []
  | item :: rest => (mapsEntries depth rest).append (mapEntries depth item)

/-- The entries of a map. -/
def mapEntries (depth : Nat) : Node → Construction (List (Value × Value))
  | .mapping _ entries => (entriesOf depth entries).all
  | _ => .ok []

end

/-- The value of a whole tree. -/
def rootValue (root : Node) : Except Fault Value :=
  (nodeValue 0 root).mapError DeepFault.fault

end FormEngine.Yaml
