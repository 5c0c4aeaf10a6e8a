import FormEngine.Field.Attribute
import FormEngine.Form
import FormEngine.Number.Integer
import FormEngine.Notice
import FormEngine.Supply
import FormEngine.Validation.Basic
import FormEngine.Value.Entries
import FormEngine.Value.Spelling

/-!
# Reading documents

Documents come from many hands, so reading them is lenient where a sensible meaning exists: parts
may be missing, some go by older names, and a form may be wrapped with its fields beside it. What
is left is a fault, which names the place of the field where it lies in one.

Reading has phases. The document is opened; the clock is read; times and settings are read; the
form claims its id; fields are read one after the other, each claiming its id; they are checked as
a whole, in document order; and at last they are arranged by the positions that they claim.
-/

namespace FormEngine

/-- The items of a part that should be a list. Nothing counts as an empty list. -/
def partItems (part : Value) : Except Fault (List Value) :=
  if !part.truthy then .ok []
  else
    match part.items? with
    | some items => .ok items
    | none => .error (.notIterable part.kindName)

/-- The entries of a part that must be a map. -/
def partEntries : Value → Except Fault Entries
  | .map entries => .ok entries
  | value => .error (.missingPart value.kindName "get")

/-- Reads an option. -/
def readChoice : Value → Except Fault Choice
  | .map entries =>
    let value := Entries.partOrLegacy entries "value" "label"
    if value = .null then .error (.optionWithoutText (.map entries))
    else do return ⟨← ((lookup "label" entries).getD value).spell, ← value.spell⟩
  | value => do
    let text ← value.spell
    return ⟨text, text⟩

/-- Reads a validation rule. -/
def readValidationRule (document : Value) : Except Fault ValidationRule := do
  let entries ← partEntries document
  let kind := entries.partOrLegacy "kind" "type"
  if kind = .null then throw (.ruleWithoutKind document)
  else
    return {
      kind := ← Recognised.ruleKind kind
      parameter := entries.partOrLegacy "parameter" "value"
      message := (entries.part "message").orElse (.str "") }

/-- Reads a conditional rule. -/
def readConditionalRule (document : Value) : Except Fault ConditionalRule := do
  let entries ← partEntries document
  let trigger := entries.partOrLegacy "triggerFieldId" "fieldId"
  if trigger = .null then throw (.ruleWithoutTrigger document)
  else
    return {
      trigger := .str (← trigger.spell)
      operator := Recognised.operator ((lookup "operator" entries).getD (.str Operator.equals.wire))
      comparison := entries.partOrLegacy "comparisonValue" "value" }

/-- The documents of the validation rules of a field. Older forms hold a map instead, which has no
messages and is left out. -/
def validationRuleDocuments (entries : Entries) : List Value :=
  match entries.partOrLegacy "validationRules" "validation" with
  | .collection .list items => items
  | _ => []

/-- The integer that a claimed position stands for. -/
def readPosition : Value → Except Fault Int
  | .null => .ok 0
  | .bool value => .ok (if value then 1 else 0)
  | .int value => .ok value
  | .float .nan => .error .nanToInteger
  | .float (.infinite _) => .error .infinityToInteger
  | .float value => .ok (value.truncate?.getD 0)
  | .str text => readInteger text
  | value => .error (.notIntegerLike value.kindName)

/-- Reads a default value. The text of a date is a date where the field asks for one. -/
def readDefault (type : FieldType) (document : Value) : Value :=
  match type, document with
  | .date, .str text =>
    match Iso.readDate? (Text.trimList text.toList) with
    | some day => .date day
    | none => document
  | _, _ => document

/-- The id that a map gives, or a new one. -/
def claimId (entries : Entries) (supply : Supply) : Except Fault String × Supply :=
  let given := entries.part "id"
  if given.truthy then (given.spell, supply)
  else
    let (id, supply) := supply.nextId
    (.ok id, supply)

/-- Opens the document of a field, up to its type. -/
def openField (document : Value) : Except Fault (Entries × FieldType) :=
  match document with
  | .map entries =>
    match lookup "type" entries with
    | none => .error (.fieldWithoutType (Entries.part entries "id"))
    | some word => do return (entries, ← FieldType.ofValue word)
  | value => .error (.fieldNotObject value)

/-- A field as documents hold it: its position is an integer. -/
structure PlacedField extends FieldContent where
  id : String
  position : Int

/-- The field that claims its position. -/
def PlacedField.field (placed : PlacedField) : Field :=
  { placed with order := .int placed.position }

/-- Reads what follows the type and the id of a field. -/
def readContent (entries : Entries) (type : FieldType) (id : String) :
    Except Fault PlacedField := do
  let options ← (← partItems (entries.part "options")).mapM readChoice
  let validationRules ← (validationRuleDocuments entries).mapM readValidationRule
  let conditionalRules ←
    (← partItems (entries.part "conditionalRules")).mapM readConditionalRule
  let position ← readPosition (entries.part "order")
  return {
    type
    label := (entries.part "label").orElse (.str "")
    placeholder := entries.part "placeholder"
    description := entries.part "description"
    required := .bool (entries.part "required").truthy
    options
    validationRules := validationRules.map .proper
    conditionalRules := conditionalRules.map .proper
    defaultValue := readDefault type (entries.part "defaultValue")
    id
    position }

/-- Reads a field. -/
def readField (supply : Supply) (document : Value) : Except Fault PlacedField × Supply :=
  match openField document with
  | .error fault => (.error fault, supply)
  | .ok (entries, type) =>
    match claimId entries supply with
    | (.error fault, supply) => (.error fault, supply)
    | (.ok id, supply) => (readContent entries type id, supply)

/-- A fault in the field at a place of a document. What is a fault of documents as such stands for
itself, and numbers out of range and places behind the end of a text are not held against the
field. -/
def Fault.atField (index : Nat) (fault : Fault) : Fault :=
  match fault.told.category with
  | .schemaImport | .engine | .overflow | .missingPlace => fault.told
  | _ => .fieldNotBuilt index fault.told

/-- Reads fields from a place of a document on. -/
def readFields (supply : Supply) (index : Nat) :
    List Value → Except Fault (List PlacedField) × Supply
  | [] => (.ok [], supply)
  | document :: rest =>
    match readField supply document with
    | (.error fault, supply) => (.error (fault.atField index), supply)
    | (.ok field, supply) =>
      let (fields, supply) := readFields supply (index + 1) rest
      (fields.map (field :: ·), supply)

/-- What a check found before it ended, and whether it ended well. -/
structure Findings where
  result : Except Fault Unit := .ok ()
  warnings : List PatternWarning := []

/-- Findings after earlier warnings. -/
def Findings.after (warnings : List PatternWarning) (findings : Findings) : Findings :=
  { findings with warnings := warnings ++ findings.warnings }

/-- Looks for patterns that are none. -/
def checkPatterns (fieldId : String) : List (Entry ValidationRule) → Findings
  | [] => {}
  | .stray _ :: rest => checkPatterns fieldId rest
  | .proper rule :: rest =>
    match rule.kind, patternStatus rule.parameter with
    | .known .pattern, .invalid =>
      (checkPatterns fieldId rest).after [⟨fieldId, rule.parameter⟩]
    | .known .pattern, .refused fault => { result := .error fault }
    | _, _ => checkPatterns fieldId rest

/-- Checks fields in document order: each id may appear once, and a field that offers options must
have one. -/
def checkFields (seen : List String) : List PlacedField → Findings
  | [] => {}
  | field :: rest =>
    if seen.contains field.id then { result := .error (.importedDuplicateId field.id) }
    else if field.type.isChoice && field.options.isEmpty then
      { result := .error (.importedChoiceWithoutOptions field.id field.type) }
    else
      let patterns := checkPatterns field.id field.validationRules
      match patterns.result with
      | .error _ => patterns
      | .ok _ => (checkFields (field.id :: seen) rest).after patterns.warnings

/-- Fields in ascending order of the positions they claim, in document order where these are equal,
and numbered anew. -/
def arrange (fields : List PlacedField) : List Field :=
  renumber ((fields.mergeSort fun left right => left.position ≤ right.position).map
    PlacedField.field)

/-- The entries of a form. Where it is wrapped, fields beside it take the place of its own. -/
def unwrap (entries : Entries) : Entries :=
  match lookup "form" entries with
  | some (.map inner) =>
    match lookup "fields" entries with
    | some fields => (.str "fields", fields) :: inner
    | none => inner
  | _ => entries

/-- Opens the document of a form, up to the documents of its fields. -/
def openForm (strict : Bool) (document : Value) : Except Fault (Entries × List Value) :=
  match document with
  | .map wrapped =>
    let entries := unwrap wrapped
    match entries.part "fields" with
    | .null => if strict then .error .documentWithoutFields else .ok (entries, [])
    | .collection .list items => .ok (entries, items)
    | _ => .error .fieldsNotArray
  | _ => .error .documentNotObject

/-- Reads a time, if there is one. -/
def readTime? (document : Value) : Except Fault (Option DateTime) :=
  match document with
  | .null | .str "" => .ok none
  | .dateTime moment => .ok (some moment)
  | value =>
    match value.spell.toOption.bind fun text => Iso.readDateTime? (Value.spellOutUtc text.toList)
    with
    | some moment => .ok (some moment)
    | none => .error (Fault.told (.invalidTimestamp value))

/-- Reads the times of creation and of the last change. -/
def readTimes (now : DateTime) (entries : Entries) : Except Fault (DateTime × DateTime) := do
  let created := (← readTime? (entries.partOrLegacy "created" "createdAt")).getD now
  let updated := (← readTime? (entries.partOrLegacy "updated" "updatedAt")).getD created
  return (created, updated)

/-- Reads settings; missing ones have their defaults. -/
def readSettings (entries : Entries) : Except Fault Settings :=
  let settingsOf (entries : Entries) : Settings := {
    allowMultipleSubmissions := entries.flag "allowMultipleSubmissions" true
    showProgressBar := entries.flag "showProgressBar" false
    confirmationMessage :=
      (entries.part "confirmationMessage").orElse (.str defaultConfirmation)
    redirectUrl := entries.part "redirectUrl"
    saveToLocalStorage := entries.flag "saveToLocalStorage" true }
  match entries.part "settings" with
  | .null => .ok (settingsOf [])
  | .map given => .ok (settingsOf given)
  | _ => .error .settingsNotObject

/-- Reads all of a form but its fields and its id. -/
def readHeader (now : DateTime) (entries : Entries) : Except Fault (String → FormHeader) := do
  let (created, updated) ← readTimes now entries
  let settings ← readSettings entries
  return fun id => {
    id
    title := (entries.part "title").orElse (.str defaultTitle)
    description := (entries.part "description").orElse (.str "")
    settings
    created := some created
    updated := some updated }

/-- What reading gives: the result, what is left of ids and times, and warnings. -/
structure Reading (α : Type) where
  result : Except Fault α
  supply : Supply
  warnings : List PatternWarning := []

/-- Reads a form. A document without fields is refused only where reading is strict. -/
def readForm (strict : Bool) (supply : Supply) (document : Value) : Reading Form :=
  match openForm strict document with
  | .error fault => { result := .error fault, supply }
  | .ok (entries, fieldDocuments) =>
    let (now, supply) := supply.now
    match readHeader now entries with
    | .error fault => { result := .error fault, supply }
    | .ok header =>
      match claimId entries supply with
      | (.error fault, supply) => { result := .error fault, supply }
      | (.ok id, supply) =>
        match readFields supply 0 fieldDocuments with
        | (.error fault, supply) => { result := .error fault, supply }
        | (.ok fields, supply) =>
          let findings := checkFields [] fields
          { result := findings.result.map fun _ => { header id with fields := arrange fields }
            supply
            warnings := findings.warnings }

end FormEngine
