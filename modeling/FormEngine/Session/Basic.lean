import FormEngine.Analysis.Report
import FormEngine.Document.Format
import FormEngine.Store.Basic

/-!
# Editing sessions

A session is where a form is edited: a current form, a store with the fields as they are edited,
and a preview to try them out. The current form has a list of fields of its own, which is brought
up to date by saving. Its members that the store has too are one and the same field, so changes
show in both; a member that the store loses stays as it was.

An operation that fails leaves the form, the fields, the selection and the preview as they were. It
may have used up ids and times.
-/

namespace FormEngine

/-- A member of the current form. -/
inductive Member where
  /-- The field of the store with the id. -/
  | shared (id : String)
  /-- A field that the store has no more. -/
  | detached (field : Field)
  deriving DecidableEq, Repr

/-- The form of a session. -/
structure CurrentForm where
  header : FormHeader
  members : List Member := []
  deriving DecidableEq, Repr

/-- An editing session. -/
structure Session where
  store : FieldStore
  current : Option CurrentForm := none
  clock : Clock
  yaml : YamlLibrary

/-- What an operation of a session gives: its result, the session after it, and what it reports. -/
structure Step (α : Type) where
  result : Except Fault α
  session : Session
  notices : List Notice := []
  warnings : List PatternWarning := []

namespace Member

/-- The field of a member. -/
def field? (store : FieldStore) : Member → Option Field
  | shared id => fieldWithId? store.fields id
  | detached field => some field

/-- Keeps the field of a member before the store loses it. -/
def detach (store : FieldStore) : Member → Member
  | shared id =>
    match fieldWithId? store.fields id with
    | some field => .detached field
    | none => .shared id
  | member => member

/-- Keeps the field with an id before the store loses it. -/
def detachId (store : FieldStore) (id : String) (member : Member) : Member :=
  if member = .shared id then member.detach store else member

end Member

/-- The form with the fields of its members. -/
def CurrentForm.form (current : CurrentForm) (store : FieldStore) : Form :=
  { current.header with fields := current.members.filterMap (Member.field? store) }

namespace Session

/-- A session without a form. -/
def new (ids : IdSource) (clock : Clock) (yaml : YamlLibrary) : Session where
  store := { ids }
  clock
  yaml

/-- The current form. -/
def currentForm? (session : Session) : Option Form :=
  session.current.map (·.form session.store)

/-- Where the session gets ids and times. -/
def supply (session : Session) : Supply where
  ids := session.store.ids
  clock := session.clock

/-- The session after ids and times were used up. -/
def withSupply (session : Session) (supply : Supply) : Session :=
  { session with store := { session.store with ids := supply.ids }, clock := supply.clock }

/-- The session with another store. -/
def withStore (session : Session) (store : FieldStore) : Session :=
  { session with store }

/-- The session with another preview. -/
def withPreview (session : Session) (preview : Preview) : Session :=
  session.withStore { session.store with preview }

/-- A step that changes nothing. -/
def unchanged {α : Type} (session : Session) (result : Except Fault α) : Step α where
  result
  session

/-- A step that either succeeds or changes nothing. -/
def stepOf {α : Type} (session : Session) (result : Except Fault (α × Session)) : Step α :=
  match result with
  | .ok (value, after) => { result := .ok value, session := after }
  | .error fault => session.unchanged (.error fault)

/-- The members that are the fields of a store. -/
def membersOf (store : FieldStore) : List Member :=
  store.fields.map fun field => .shared field.id

/-- A new form, made now. -/
def newHeader (session : Session) (title description : Value) : FormHeader × Session :=
  let (now, supply) := session.supply.now
  let (id, supply) := supply.nextId
  ({ id
     title := title.orElse (.str defaultTitle)
     description
     created := some now
     updated := some now },
    session.withSupply supply)

/-- Starts an empty form. Fields, selection and preview are discarded. -/
def create (session : Session) (title description : Value) : Step Form :=
  let (header, session) := session.newHeader title description
  let store : FieldStore := { ids := session.store.ids }
  { result := .ok { header with fields := [] }
    session := { session with store, current := some { header } } }

/-- Makes a form the current one. Its fields are sorted and numbered by their claimed positions. -/
def loadForm (session : Session) (form : Form) : Except Fault (Form × Session) := do
  let store ← session.store.replace form.fields
  let current : CurrentForm := { header := form.toFormHeader, members := membersOf store }
  return (current.form store, { session with store, current := some current })

/-- Makes a form the current one. -/
def load (session : Session) (form : Form) : Step Form :=
  session.stepOf (session.loadForm form)

/-- Loads the current form again, which drops all fields that were not saved. -/
def reload (session : Session) : Step Form :=
  match session.currentForm? with
  | some form => session.load form
  | none => session.unchanged (.error (.missingPart Value.null.kindName "fields"))

/-- The current form, or a new one without a title where there is none. -/
def ensureForm (session : Session) : CurrentForm × Session :=
  match session.current with
  | some current => (current, session)
  | none =>
    let (header, session) := session.newHeader (.str defaultTitle) (.str "")
    let current : CurrentForm := { header }
    (current, { session with current := some current })

/-- Brings the fields of the current form up to date and stamps it. Without a form nothing is
saved. -/
def save (session : Session) : Step (Option Form) :=
  match session.current with
  | none => session.unchanged (.ok none)
  | some current =>
    let (now, clock) := session.clock.read
    let current : CurrentForm := {
      header := { current.header with updated := some now }
      members := membersOf session.store }
    { result := .ok (some (current.form session.store))
      session := { session with current := some current, clock } }

/-- The current form with the fields as they are edited. -/
def snapshot (session : Session) : Step Form :=
  let (current, session) := session.ensureForm
  { result := .ok { current.header with fields := session.store.fields }, session }

/-- The text of a snapshot. -/
def exportForm (session : Session) (format : Value) : Step String :=
  match Format.ofValue format with
  | .error fault => session.unchanged (.error fault)
  | .ok format =>
    let taken := session.snapshot
    { result := taken.result >>= (·.write format session.yaml), session := taken.session }

/-- Reads a form from a text and loads it. -/
def importText (session : Session) (text format : Value) (strict : Bool) : Step Form :=
  match Format.ofValue format with
  | .error fault => session.unchanged (.error fault)
  | .ok format =>
    let reading := importForm format session.yaml strict session.supply text
    let session := session.withSupply reading.supply
    let loaded := session.stepOf (reading.result >>= session.loadForm)
    { loaded with
      notices := format.readNotices session.yaml text
      warnings := reading.warnings }

/-- Imports what the session exports. -/
def reimport (session : Session) (format : Value) : Step Form :=
  let written := session.exportForm format
  match written.result with
  | .error fault => { result := .error fault, session := written.session }
  | .ok text => written.session.importText (.str text) format true

/-- The analysis of a snapshot. -/
def analyze (session : Session) : Step Report :=
  let taken := session.snapshot
  { result := taken.result >>= Form.analyze, session := taken.session }

/-- Adds a field. -/
def add (session : Session) (type : Value) (attributes : Attributes) : Step Field :=
  let outcome := session.store.add type attributes
  { result := outcome.result, session := session.withStore outcome.state }

/-- Adds another field with the attributes of one. -/
def duplicate (session : Session) (id : Value) : Step Field :=
  match session.store.requireField id with
  | .error fault => session.unchanged (.error fault)
  | .ok field => session.add (.str FieldType.text.wire) field.attributes

/-- Changes attributes of a field. -/
def update (session : Session) (id : Value) (attributes : Attributes) : Step Field :=
  session.stepOf do
    let (field, store) ← session.store.update id attributes
    return (field, session.withStore store)

/-- What deleting a field reports. -/
def deleteNotices (id : Value) (result : Except Fault Nat) : List Notice :=
  match result, id with
  | .ok 0, _ => []
  | .ok count, .str text => [.droppedConditions count text]
  | _, _ => []

/-- Deletes a field. If it is a member of the current form, the member stays as it was. -/
def delete (session : Session) (id : Value) : Step Unit :=
  match session.store.requireField id with
  | .error fault => session.unchanged (.error fault)
  | .ok field =>
    let outcome := session.store.delete id
    let detach (current : CurrentForm) : CurrentForm :=
      { current with members := current.members.map (Member.detachId session.store field.id) }
    { result := outcome.result.map fun _ => ()
      session := { session with store := outcome.state, current := session.current.map detach }
      notices := deleteNotices id outcome.result }

/-- Moves a field to another place. -/
def move (session : Session) (source target : Value) : Step Unit :=
  session.stepOf do return ((), session.withStore (← session.store.move source target))

/-- Selects a field, or none. -/
def select (session : Session) (id : Value) : Step Unit :=
  session.stepOf do return ((), session.withStore (← session.store.select id))

/-- Replaces all fields of the store. The members of the current form stay as they were. -/
def replaceFields (session : Session) (fields : List Field) : Step Unit :=
  session.stepOf do
    let store ← session.store.replace fields
    let detach (current : CurrentForm) : CurrentForm :=
      { current with members := current.members.map (Member.detach session.store) }
    return ((), { session with store, current := session.current.map detach })

/-- The answers to begin with: default values, and nothing chosen or written otherwise. -/
def initialAnswers (session : Session) : Answers :=
  .ofList (session.store.fields.map fun field =>
    (field.id,
      if field.defaultValue ≠ .null then field.defaultValue
      else if field.type = .checkbox then .list []
      else .str ""))

/-- Records an answer. -/
def answer (session : Session) (id value : Value) : Step Unit :=
  session.stepOf do
    let field ← session.store.requireField id
    return ((), session.withPreview (session.store.preview.answer field.id value))

/-- Records answers one by one, up to the first to a field that is not there. -/
def answerAll : List (String × Value) → Session → Step Unit
  | [], session => session.unchanged (.ok ())
  | (id, value) :: rest, session =>
    let step := session.answer (.str id) value
    match step.result with
    | .ok _ => answerAll rest step.session
    | .error _ => step

/-- The visible fields. -/
def visibleFields (session : Session) : Except Fault (List Field) :=
  FormEngine.visibleFields session.store.fields session.store.preview.answers

/-- Evaluates the answers of the preview, and replaces its messages. -/
def evaluate (session : Session) : Step Evaluation :=
  let fields := session.store.fields
  let preview := session.store.preview
  let step := session.stepOf do
    let evaluation ← FormEngine.evaluate fields preview.answers
    return (evaluation, session.withPreview { preview with errors := evaluation.errors })
  { step with notices := evaluationNotices fields preview.answers }

/-- Evaluates the answers before they are sent. -/
def submit (session : Session) : Step Evaluation :=
  session.evaluate

end Session

end FormEngine
