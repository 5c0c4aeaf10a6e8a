import FormEngine.Proofs.Yaml.Node
import FormEngine.Proofs.Yaml.Token
import FormEngine.Yaml.Reading

/-!
# Faults of nodes that stand for no value

Most nodes without a value make their text no YAML. Numbers, timestamps and truth values that are
none have faults of their own, which stem from the notations that their texts should follow. What is
read from a tree of nodes has one of these faults, whichever comes first.
-/

namespace FormEngine.Yaml

open Result (FailsOnly failsOnly_bind_iff failsOnly_mapM failsOnly_foldlM)

/-- The faults of nodes that stand for no value. -/
inductive IsNodeFault : Fault → Prop where
  | invalid : IsNodeFault .invalidYaml
  | emptyNumber : IsNodeFault .emptyNumber
  | notAnInteger (base : Nat) (text : String) : IsNodeFault (.notAnInteger base text)
  | integerTooLong (digits : Nat) : IsNodeFault (.integerTooLong digits)
  | notADecimal (text : String) : IsNodeFault (.notADecimal text)
  | integerToFloat : IsNodeFault .integerToFloat
  | notInCalendar (part : CalendarPart) : IsNodeFault (.notInCalendar part)
  | noTimestamp (kind part : String) : IsNodeFault (.missingPart kind part)
  | notATruthValue (word : String) : IsNodeFault (.notATruthValue word)
  | notSearchable : IsNodeFault .notSearchable

attribute [simp] IsNodeFault.invalid IsNodeFault.emptyNumber IsNodeFault.notAnInteger
  IsNodeFault.integerTooLong IsNodeFault.notADecimal IsNodeFault.integerToFloat
  IsNodeFault.notInCalendar IsNodeFault.noTimestamp IsNodeFault.notATruthValue
  IsNodeFault.notSearchable

@[simp] theorem failsOnly_readInteger (text : String) :
    FailsOnly IsNodeFault (readInteger text) := by
  simp only [readInteger]
  split <;> simp

@[simp] theorem failsOnly_readInBase (base : Nat) (text : String) :
    FailsOnly IsNodeFault (readInBase base text) := by
  simp only [readInBase]
  split <;> simp

@[simp] theorem failsOnly_readSize (size : List Char) : FailsOnly IsNodeFault (readSize size) := by
  unfold readSize
  split <;> simp [failsOnly_bind_iff, failsOnly_mapM]

@[simp] theorem failsOnly_readIntText (text : String) :
    FailsOnly IsNodeFault (readIntText text) := by
  simp [readIntText, failsOnly_bind_iff]

@[simp] theorem failsOnly_readDecimal (text : String) :
    FailsOnly IsNodeFault (readDecimal text) := by
  cases read : Numeral.readDouble? text with
  | none => simp [readDecimal, read]
  | some value => simp [readDecimal, read]

@[simp] theorem failsOnly_sumClockParts (parts : List Double) :
    FailsOnly IsNodeFault (sumClockParts parts) := by
  have each (sum : Double × Nat) (part : Double) :
      FailsOnly IsNodeFault (addClockPart sum part) := by
    rw [addClockPart]
    cases Double.ofInt? sum.2 <;> simp
  rw [sumClockParts, failsOnly_bind_iff]
  exact ⟨failsOnly_foldlM parts (fun sum part _ => each sum part) _, fun sum _ => Result.failsOnly_ok sum.1⟩

@[simp] theorem failsOnly_readFloatSize (size : List Char) :
    FailsOnly IsNodeFault (readFloatSize size) := by
  unfold readFloatSize
  split <;> simp [failsOnly_bind_iff, failsOnly_mapM]

@[simp] theorem failsOnly_readFloatText (text : String) :
    FailsOnly IsNodeFault (readFloatText text) := by
  simp [readFloatText, failsOnly_bind_iff]

@[simp] theorem failsOnly_readTimestampText (text : String) :
    FailsOnly IsNodeFault (readTimestampText text) := by
  have day (parts : TimestampText) : FailsOnly IsNodeFault (timestampDate parts) := by
    unfold timestampDate
    split <;> simp
  have time (hour minute second : Nat) (fraction : List Char) :
      FailsOnly IsNodeFault (timestampTime hour minute second fraction) := by
    simp only [timestampTime]
    split <;> simp
  have offset (parts : Option (Bool × Nat × Nat)) :
      FailsOnly IsNodeFault (timestampOffset parts) := by
    unfold timestampOffset
    split
    · simp
    · dsimp only
      split <;> simp
  unfold readTimestampText
  split
  · simp
  · split <;> simp [failsOnly_bind_iff, day, time, offset]

/-- A scalar whose text does not fit its tag has a fault of nodes. -/
@[simp] theorem failsOnly_scalarValue (tag : Tag) (text : String) :
    FailsOnly IsNodeFault (scalarValue tag text) := by
  unfold scalarValue
  split
  case h_3 =>
    dsimp only
    split <;> simp
  all_goals simp [failsOnly_bind_iff]

@[simp] theorem failsOnly_valueAs (tag : Tag) (node : Node) :
    FailsOnly IsNodeFault (valueAs tag node) := by
  unfold valueAs
  split <;> simp

@[simp] theorem failsOnly_keyValue (key : Node) : FailsOnly IsNodeFault (keyValue key) := by
  simp [keyValue]

namespace Construction

variable {α β : Type}

/-- What is read from a part of a tree, and fails only with faults of nodes. -/
abbrev IsSound (construction : Construction α) : Prop :=
  FailsOnly (fun deep => IsNodeFault deep.fault) construction

theorem isSound_atDepth {result : Except Fault α} (only : FailsOnly IsNodeFault result)
    (depth : Nat) : (atDepth depth result).IsSound := by
  cases result with
  | ok value => exact Result.failsOnly_ok value
  | error fault => exact Result.failsOnly_error_iff.mpr (only fault rfl)

theorem isSound_map {construction : Construction α} (sound : construction.IsSound) (f : α → β) :
    IsSound (construction.map f) :=
  Result.failsOnly_map_iff.mpr sound

/-- Of two faults one is told, whichever is less deep. -/
theorem isSound_both {first : Construction α} {second : Construction β} (firstSound : first.IsSound)
    (secondSound : second.IsSound) : (first.both second).IsSound := by
  intro deep fails
  unfold both at fails
  split at fails
  · cases fails
  · cases fails
    exact secondSound _ rfl
  · cases fails
    exact firstSound _ rfl
  · split at fails
    · cases fails
      exact secondSound _ rfl
    · cases fails
      exact firstSound _ rfl

theorem isSound_cons {first : Construction α} {rest : Construction (List α)}
    (firstSound : first.IsSound) (restSound : rest.IsSound) : (first.cons rest).IsSound :=
  isSound_map (isSound_both firstSound restSound) _

theorem isSound_append {first second : Construction (List α)} (firstSound : first.IsSound)
    (secondSound : second.IsSound) : (first.append second).IsSound :=
  isSound_map (isSound_both firstSound secondSound) _

end Construction

namespace MergedEntries

/-- Entries of which both those that are merged in and the own ones are sound. -/
structure IsSound (entries : MergedEntries) : Prop where
  merged : entries.merged.IsSound
  own : entries.own.IsSound

theorem IsSound.all {entries : MergedEntries} (sound : entries.IsSound) : entries.all.IsSound :=
  Construction.isSound_append sound.merged sound.own

theorem IsSound.before {first second : MergedEntries} (firstSound : first.IsSound)
    (secondSound : second.IsSound) : (first.before second).IsSound where
  merged := Construction.isSound_append firstSound.merged secondSound.merged
  own := Construction.isSound_append firstSound.own secondSound.own

end MergedEntries

open Construction

-- one case for each way to read a part of a tree, along the trees
mutual

theorem isSound_nodeValue (depth : Nat) : (node : Node) → (nodeValue depth node).IsSound
  | .scalar tag text => by
    unfold nodeValue
    exact isSound_atDepth (failsOnly_scalarValue tag text) _
  | .sequence tag items => by
    unfold nodeValue
    cases tag
    case sequence => exact isSound_map (isSound_nodeValues (depth + 1) items) _
    case orderedMap => exact isSound_map (isSound_pairValues (depth + 1) items) _
    case pairs => exact isSound_map (isSound_pairValues (depth + 1) items) _
    all_goals exact isSound_atDepth (by simp) _
  | .mapping tag entries => by
    have all := (isSound_entriesOf (depth + 1) entries).all
    unfold nodeValue
    cases tag
    case mapping =>
      dsimp only
      split
      · exact isSound_map all _
      · exact isSound_atDepth (by simp) _
    case set =>
      dsimp only
      split
      · exact isSound_map all _
      · exact isSound_atDepth (by simp) _
    all_goals exact isSound_atDepth (by simp) _

theorem isSound_nodeValues (depth : Nat) : (items : List Node) → (nodeValues depth items).IsSound
  | [] => Result.failsOnly_ok []
  | item :: rest => isSound_cons (isSound_nodeValue depth item) (isSound_nodeValues depth rest)

theorem isSound_pairValues (depth : Nat) : (items : List Node) → (pairValues depth items).IsSound
  | [] => Result.failsOnly_ok []
  | item :: rest => isSound_cons (isSound_pairValue depth item) (isSound_pairValues depth rest)

theorem isSound_pairValue (depth : Nat) : (node : Node) → (pairValue depth node).IsSound
  | .mapping _ entries => isSound_onlyEntry depth entries
  | .scalar .. => isSound_atDepth (by simp) depth
  | .sequence .. => isSound_atDepth (by simp) depth

theorem isSound_onlyEntry (depth : Nat) :
    (entries : List (Node × Node)) → (onlyEntry depth entries).IsSound
  | [entry] => isSound_map (isSound_plainEntry depth entry) _
  | [] => isSound_atDepth (by simp) depth
  | _ :: _ :: _ => isSound_atDepth (by simp) depth

theorem isSound_plainEntry (depth : Nat) :
    (entry : Node × Node) → (plainEntry depth entry).IsSound
  | (key, value) => isSound_both (isSound_nodeValue depth key) (isSound_nodeValue depth value)

theorem isSound_entriesOf (depth : Nat) :
    (entries : List (Node × Node)) → (entriesOf depth entries).IsSound
  | [] => ⟨Result.failsOnly_ok [], Result.failsOnly_ok []⟩
  | entry :: rest => (isSound_entryOf depth entry).before (isSound_entriesOf depth rest)

theorem isSound_entryOf (depth : Nat) : (entry : Node × Node) → (entryOf depth entry).IsSound
  | (key, value) => by
    have own := isSound_both (isSound_atDepth (failsOnly_keyValue key) depth)
      (isSound_nodeValue depth value)
    unfold entryOf
    split
    · exact ⟨isSound_mergedEntries depth value, Result.failsOnly_ok []⟩
    · exact ⟨Result.failsOnly_ok [], isSound_map own _⟩

theorem isSound_mergedEntries (depth : Nat) : (node : Node) → (mergedEntries depth node).IsSound
  | .mapping _ entries => (isSound_entriesOf depth entries).all
  | .sequence _ items => isSound_mapsEntries depth items
  | .scalar .. => Result.failsOnly_ok []

theorem isSound_mapsEntries (depth : Nat) : (items : List Node) → (mapsEntries depth items).IsSound
  | [] => Result.failsOnly_ok []
  | item :: rest => isSound_append (isSound_mapsEntries depth rest) (isSound_mapEntries depth item)

theorem isSound_mapEntries (depth : Nat) : (node : Node) → (mapEntries depth node).IsSound
  | .mapping _ entries => (isSound_entriesOf depth entries).all
  | .scalar .. => Result.failsOnly_ok []
  | .sequence .. => Result.failsOnly_ok []

end

/-- A tree of nodes that stands for no value has a fault of nodes. -/
theorem failsOnly_rootValue (root : Node) : FailsOnly IsNodeFault (rootValue root) := by
  intro fault fails
  rw [rootValue] at fails
  cases value : nodeValue 0 root with
  | ok _ =>
    rw [value] at fails
    cases fails
  | error deep =>
    rw [value] at fails
    cases fails
    exact isSound_nodeValue 0 root deep value

end FormEngine.Yaml
