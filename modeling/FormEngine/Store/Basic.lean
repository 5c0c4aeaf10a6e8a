import FormEngine.Evaluation
import FormEngine.Field.Attribute
import FormEngine.Sorting
import FormEngine.Store.Preview
import FormEngine.Supply
import FormEngine.Value.Order

/-!
# The field store

The store owns the fields of a form while it is edited. Ids are unique and the order of a field is
its place in the list. One field may be selected.
-/

namespace FormEngine

/-- The fields of a form that is edited. -/
structure FieldStore where
  fields : List Field := []
  selected : Option String := none
  preview : Preview := {}
  ids : IdSource

/-- The outcome of an operation: what it gives or why it failed, and the state after it, which a
failing operation may have changed too. -/
structure Outcome (σ α : Type) where
  result : Except Fault α
  state : σ

/-- The outcome of an operation that either succeeds or leaves the state as it was. -/
def Outcome.ofExcept {σ α : Type} (before : σ) (result : Except Fault (α × σ)) : Outcome σ α :=
  match result with
  | .ok (value, after) => ⟨.ok value, after⟩
  | .error fault => ⟨.error fault, before⟩

namespace FieldStore

-- Sums start from the core library's zero, whatever algebra is in scope beside this module.
attribute [local instance (high)] Zero.ofOfNat0

/-- The field with an id. -/
def field? (store : FieldStore) (id : Value) : Option Field :=
  id.text?.bind (fieldWithId? store.fields)

/-- The field with an id, which must be there. -/
def requireField (store : FieldStore) (id : Value) : Except Fault Field :=
  match store.field? id with
  | some field => .ok field
  | none => .error (Fault.unknownField id).told

/-- The place of the field with an id. -/
def indexOf (store : FieldStore) (id : Value) : Except Fault Nat :=
  match id.text?.bind fun text => store.fields.findIdx? (·.id == text) with
  | some index => .ok index
  | none => .error (Fault.unknownField id).told

/-- The selected field. -/
def selectedField? (store : FieldStore) : Option Field :=
  store.selected.bind (fieldWithId? store.fields)

/-- The ids of the fields, in order. -/
def fieldIds (store : FieldStore) : List String :=
  store.fields.map (·.id)

/-- Ids that are drawn before the store gives up. -/
def idAttempts : Nat := 100

/-- Draws ids until one is not taken. -/
def freshId (taken : List String) (ids : IdSource) : (attempts : Nat) → Option String × IdSource
  | 0 => (none, ids)
  | attempts + 1 =>
    let (candidate, rest) := ids.next
    if taken.contains candidate then freshId taken rest attempts else (some candidate, rest)

/-- Appends a field and selects it. -/
def append (store : FieldStore) (field : Field) : FieldStore :=
  { store with fields := store.fields ++ [field], selected := some field.id }

/-- Adds a field of a type with the given attributes. Given ids and orders do not count. -/
def add (store : FieldStore) (type : Value) (attributes : Attributes) :
    Outcome FieldStore Field :=
  match attributes.checkKnown >>= fun _ => FieldContent.create type attributes with
  | .error fault => ⟨.error fault, store⟩
  | .ok content =>
    let (fresh, ids) := freshId store.fieldIds store.ids idAttempts
    let store := { store with ids }
    match fresh with
    | none => ⟨.error .idsExhausted, store⟩
    | some id =>
      let field : Field := { content with id, order := .int store.fields.length }
      ⟨.ok field, store.append field⟩

/-- Puts content in place of that of the first field with an id. -/
def setContent (id : String) (content : FieldContent) (fields : List Field) : List Field :=
  match fields with
  | [] => []
  | field :: rest =>
    if field.id = id then { field with toFieldContent := content } :: rest
    else field :: setContent id content rest

/-- Changes the given attributes of a field, all of them or none. -/
def update (store : FieldStore) (id : Value) (attributes : Attributes) :
    Except Fault (Field × FieldStore) := do
  attributes.checkUnlocked
  attributes.checkKnown
  let field ← store.requireField id
  let content ← field.toFieldContent.change attributes
  return ({ field with toFieldContent := content },
    { store with fields := setContent field.id content store.fields })

/-- Drops the conditions that a field has on an id. The first stray value among its conditions is
a fault. -/
def scrubField (id : String) (field : Field) : Except Fault Field := do
  let kept ← field.conditionalRules.filterM fun entry => do
    let rule ← entry.conditionOf
    return rule.trigger != .str id
  return { field with conditionalRules := kept }

/-- Drops the conditions on an id from one field after the other. A fault ends the scrubbing; the
fields before it stay scrubbed. -/
def scrub (id : String) : List Field → Outcome (List Field) Unit
  | [] => ⟨.ok (), []⟩
  | field :: rest =>
    match scrubField id field with
    | .error fault => ⟨.error fault, field :: rest⟩
    | .ok scrubbed =>
      let outcome := scrub id rest
      ⟨outcome.result, scrubbed :: outcome.state⟩

/-- The number of conditions of some fields. -/
def conditionCount (fields : List Field) : Nat :=
  (fields.map (·.conditionalRules.length)).sum

/-- Deletes a field with all that depends on it, and gives the number of conditions dropped. -/
def delete (store : FieldStore) (id : Value) : Outcome FieldStore Nat :=
  match store.indexOf id, id with
  | .ok index, .str text =>
    let remaining := renumber (store.fields.eraseIdx index)
    let scrubbed := scrub text remaining
    let after : FieldStore := { store with
      fields := scrubbed.state
      selected := if store.selected = some text then none else store.selected
      preview := store.preview.forget text }
    ⟨scrubbed.result.map fun _ => conditionCount remaining - conditionCount scrubbed.state, after⟩
  | .error fault, _ => ⟨.error fault, store⟩
  | .ok _, other => ⟨.error (Fault.unknownField other).told, store⟩

/-- A place in a list of a size, if the value is one. -/
def place (moveEnd : MoveEnd) (index : Value) (size : Nat) : Except Fault Nat :=
  match index with
  | .int position =>
    if 0 ≤ position ∧ position < size then .ok position.toNat
    else .error (Fault.indexOutOfRange moveEnd index size).told
  | _ => .error (Fault.indexOutOfRange moveEnd index size).told

/-- The list with the item at one place moved to another. -/
def moveItem {α : Type} (items : List α) (source target : Nat) : List α :=
  match items[source]? with
  | none => items
  | some item => (items.eraseIdx source).insertIdx target item

/-- Moves a field to another place. -/
def move (store : FieldStore) (source target : Value) : Except Fault FieldStore := do
  let size := store.fields.length
  let source ← place .source source size
  let target ← place .target target size
  return { store with fields := renumber (moveItem store.fields source target) }

/-- Selects a field, or none. -/
def select (store : FieldStore) (id : Value) : Except Fault FieldStore :=
  match id with
  | .null => .ok { store with selected := none }
  | id => do
    let field ← store.requireField id
    return { store with selected := some field.id }

/-- The first id that an earlier field has too. -/
def repeatedId? (seen : List String) : List Field → Option String
  | [] => none
  | field :: rest =>
    if seen.contains field.id then some field.id else repeatedId? (field.id :: seen) rest

/-- Fields in ascending order of their claimed positions. -/
def sortByOrder (fields : List Field) : Except Fault (List Field) :=
  Sorting.sort (fun left right => left.order.before right.order) fields

/-- Replaces all fields by others, sorted by their claimed positions. Selection and preview are
reset. -/
def replace (store : FieldStore) (fields : List Field) : Except Fault FieldStore := do
  let sorted ← sortByOrder fields
  match repeatedId? [] sorted with
  | some id => throw (.duplicateId id)
  | none =>
    return { store with fields := renumber sorted, selected := none, preview := {} }

/-- A store of some fields. -/
def ofFields (ids : IdSource) (fields : List Field) : Except Fault FieldStore :=
  ({ ids } : FieldStore).replace fields

end FieldStore

end FormEngine
