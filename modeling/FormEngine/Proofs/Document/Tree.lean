import FormEngine.Document.Reading
import FormEngine.Proofs.Document.Rearrangement

/-!
# Trees of values

What texts in JSON stand for are trees: null, booleans, numbers, texts, lists, and maps with
distinct texts as keys. Which floating point numbers are admitted is left open.
-/

namespace FormEngine

/-- A tree with certain floating point numbers. -/
inductive Value.IsTree (admitted : Double → Prop) : Value → Prop where
  | null : IsTree admitted .null
  | bool (value : Bool) : IsTree admitted (.bool value)
  | int (value : Int) : IsTree admitted (.int value)
  | float {value : Double} (isAdmitted : admitted value) : IsTree admitted (.float value)
  | str (text : String) : IsTree admitted (.str text)
  | list {items : List Value} (each : ∀ item ∈ items, IsTree admitted item) :
      IsTree admitted (.list items)
  | map {entries : List (Value × Value)} (texts : ∀ entry ∈ entries, ∃ key, entry.1 = .str key)
      (distinct : (entries.map (·.1)).Nodup) (each : ∀ entry ∈ entries, IsTree admitted entry.2) :
      IsTree admitted (.map entries)

/-- A value as JSON has it, with NaN and the infinities. -/
abbrev Value.IsJson : Value → Prop :=
  Value.IsTree fun _ => True

/-- A tree of finite numbers. -/
abbrev Value.IsFiniteTree : Value → Prop :=
  Value.IsTree fun number => number.isFinite = true

/-- A single value: no date, collection or map. -/
def Value.IsScalar : Value → Prop
  | .null | .bool _ | .int _ | .float _ | .str _ => True
  | _ => False

/-- A single value is a tree, as JSON has it. -/
theorem Value.IsScalar.isJson {value : Value} (scalar : value.IsScalar) : value.IsJson := by
  cases value with
  | null => exact .null
  | bool value => exact .bool value
  | int value => exact .int value
  | float value => exact .float trivial
  | str text => exact .str text
  | _ => exact scalar.elim

/-- A single value stays as it is under every rearrangement. -/
theorem Value.IsRearrangement.scalar {rearrange : Value → Value}
    (rearranges : IsRearrangement rearrange) {value : Value} (scalar : value.IsScalar) :
    rearrange value = value := by
  apply rearranges.plain
  cases value with
  | collection shape items => exact scalar
  | map entries => exact scalar
  | _ => trivial

/-- Whatever stands under a text key of the entries has a property. -/
def Entries.Hold (holds : Value → Prop) (entries : Entries) : Prop :=
  ∀ key value, lookup key entries = some value → holds value

/-- A property that values hand down to their parts, and that a part which is missing has. -/
structure Value.HandsDown (holds : Value → Prop) : Prop where
  null : holds .null
  list : ∀ {items : List Value}, holds (.list items) → ∀ item ∈ items, holds item
  map : ∀ {entries : List (Value × Value)}, holds (.map entries) → ∀ entry ∈ entries, holds entry.2

/-- Whatever stands under a text key of the entries is a tree. -/
def Entries.HoldTrees (admitted : Double → Prop) (entries : Entries) : Prop :=
  ∀ key value, lookup key entries = some value → value.IsTree admitted

/-- What is looked up stands there. -/
theorem mem_of_lookup {entries : List (Value × Value)} {key : String} {value : Value}
    (found : lookup key entries = some value) : (.str key, value) ∈ entries := by
  induction entries with
  | nil => cases found
  | cons entry rest inductionHypothesis =>
    obtain ⟨entryKey, entryValue⟩ := entry
    cases entryKey with
    | str text =>
      simp only [lookup] at found
      split at found
      next same =>
        cases found
        rw [same]
        exact .head _
      next => exact .tail _ (inductionHypothesis found)
    | _ => exact .tail _ (inductionHypothesis (by simpa [lookup] using found))

namespace Value.HandsDown

variable {holds : Value → Prop} (handsDown : HandsDown holds) {entries : Entries}
include handsDown

/-- The entries of a map get what the map has. -/
theorem hold (given : holds (.map entries)) : entries.Hold holds :=
  fun _ _ found => handsDown.map given _ (mem_of_lookup found)

/-- So does a part of them. -/
theorem part (held : entries.Hold holds) (key : String) : holds (entries.part key) := by
  rw [Entries.part]
  cases found : lookup key entries with
  | none => exact handsDown.null
  | some value => exact held key value found

/-- So does a part with an older name. -/
theorem partOrLegacy (held : entries.Hold holds) (key legacy : String) :
    holds (entries.partOrLegacy key legacy) := by
  rw [Entries.partOrLegacy]
  cases found : lookup key entries with
  | none =>
    rw [Option.none_or]
    exact handsDown.part held legacy
  | some value => exact held key value found

/-- So do the entries of a form that is wrapped. -/
theorem unwrap (held : entries.Hold holds) : (FormEngine.unwrap entries).Hold holds := by
  unfold FormEngine.unwrap
  split
  next inner found =>
    have innerHeld := handsDown.hold (held _ _ found)
    split
    next fields fieldsFound =>
      intro key value inOuter
      simp only [lookup] at inOuter
      split at inOuter
      · cases inOuter
        exact held _ _ fieldsFound
      · exact innerHeld key value inOuter
    · exact innerHeld
  · exact held

/-- What is opened of a document gets what the document has. -/
theorem openForm {strict : Bool} {document : Value} (given : holds document)
    {documents : List Value} (opened : openForm strict document = .ok (entries, documents)) :
    entries.Hold holds ∧ ∀ document ∈ documents, holds document := by
  cases document with
  | map wrapped =>
    have held := handsDown.unwrap (handsDown.hold given)
    have fieldsHold := handsDown.part held "fields"
    simp only [FormEngine.openForm] at opened
    split at opened
    · split at opened
      · cases opened
      · cases opened
        exact ⟨held, fun document member => by cases member⟩
    next items isList =>
      cases opened
      rw [isList] at fieldsHold
      exact ⟨held, handsDown.list fieldsHold⟩
    · cases opened
  | _ => cases opened

end Value.HandsDown

namespace Value.IsTree

variable {admitted : Double → Prop}

/-- Trees consist of trees. -/
theorem handsDown : HandsDown (IsTree admitted) where
  null := .null
  list given := by
    cases given with
    | list each => exact each
  map given := by
    cases given with
    | map texts distinct each => exact each

/-- The entries of a tree hold trees. -/
theorem holdTrees {entries : List (Value × Value)} (tree : IsTree admitted (.map entries)) :
    Entries.HoldTrees admitted entries :=
  handsDown.hold tree

/-- The items of a tree are trees. -/
theorem items {items : List Value} (tree : IsTree admitted (.list items)) :
    ∀ item ∈ items, IsTree admitted item :=
  handsDown.list tree

/-- A list is a tree exactly if its items are. -/
@[simp] theorem list_iff {items : List Value} :
    IsTree admitted (.list items) ↔ ∀ item ∈ items, IsTree admitted item :=
  ⟨IsTree.items, .list⟩

/-- A record is a tree exactly if no key stands twice and its parts are trees. -/
@[simp] theorem record_iff {parts : List (String × Value)} :
    IsTree admitted (.record parts) ↔
      (parts.map (·.1)).Nodup ∧ ∀ part ∈ parts, IsTree admitted part.2 := by
  have keys : (parts.map fun part => (Value.str part.1, part.2)).map (·.1) =
      (parts.map (·.1)).map .str := by
    simp [Function.comp_def]
  constructor
  · intro tree
    cases tree with
    | map texts distinct each =>
      rw [keys] at distinct
      refine ⟨distinct.of_map _, fun part member => ?_⟩
      exact each _ (List.mem_map_of_mem member)
  · rintro ⟨distinct, each⟩
    refine .map ?_ ?_ ?_
    · intro entry member
      obtain ⟨part, -, rfl⟩ := List.mem_map.mp member
      exact ⟨part.1, rfl⟩
    · rw [keys]
      exact distinct.map fun _ _ same => Value.str.inj same
    · intro entry member
      obtain ⟨part, inParts, rfl⟩ := List.mem_map.mp member
      exact each part inParts

attribute [simp] null bool int str

/-- A tree stands for itself in documents, for it is no date. -/
theorem toDocument {value : Value} (tree : value.IsTree admitted) : value.toDocument = value := by
  cases tree <;> rfl

end Value.IsTree

namespace Entries.HoldTrees

variable {admitted : Double → Prop} {entries : Entries} (trees : HoldTrees admitted entries)
include trees

/-- A part of entries that hold trees is a tree. -/
theorem part (key : String) : (entries.part key).IsTree admitted :=
  Value.IsTree.handsDown.part trees key

/-- So is a part with an older name. -/
theorem partOrLegacy (key legacy : String) : (entries.partOrLegacy key legacy).IsTree admitted :=
  Value.IsTree.handsDown.partOrLegacy trees key legacy

end Entries.HoldTrees

end FormEngine
