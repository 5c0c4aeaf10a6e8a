import FormEngine.Proofs.Document.Normal
import FormEngine.Proofs.Json.Reading
import FormEngine.Proofs.Session.Failure
import FormEngine.Proofs.Session.Loading
import FormEngine.Proofs.Store.Exportable
import FormEngine.Session.Run

/-!
# Sessions that can be exported

An editor works on a form by calls with values of the right types. Some calls are refused, and texts
that are imported may hold anything as long as the form in them has the right types. Whatever the
calls, the session can be exported after each of them: its fields are in order, with ids and
options, and its form has a title, a message for the end and times.
-/

namespace FormEngine

/-- All of a form but its fields, with texts where texts should be. -/
structure FormHeader.IsTyped (header : FormHeader) : Prop where
  title : header.title.IsText
  description : header.description.IsText
  confirmation : header.settings.confirmationMessage.IsText
  redirect : header.settings.redirectUrl.IsHint

/-- A form whose values have the types that they should have. -/
structure Form.IsTyped (form : Form) : Prop where
  header : form.toFormHeader.IsTyped
  fields : ∀ field ∈ form.fields, field.toFieldContent.IsTyped

/-- A call of an editor whose values have the types that they should have, or which imports a text
in JSON. If a form can be read from the text, its values should have the right types. Handing over
forms and fields that were made elsewhere is left aside. -/
def SessionCall.IsTyped (session : Session) : SessionCall → Prop
  | .create title description => title.IsText ∧ description.IsText
  | .importText text format strict => format = .str "json" ∧
      ∀ form, (importForm .json session.yaml strict session.supply text).result = .ok form → form.IsTyped
  | .add _ attributes | .update _ attributes => ∀ part ∈ attributes, part.IsTyped
  | .load _ | .replaceFields _ => False
  | _ => True

/-- The sessions that an editor reaches from a new one, whether the calls succeed or fail. -/
inductive Session.Edited (ids : IdSource) (clock : Clock) : Session → Prop where
  | new (yaml : YamlLibrary) : Edited ids clock (Session.new ids clock yaml)
  | called {session : Session} (earlier : Edited ids clock session) {call : SessionCall}
      (typed : call.IsTyped session) : Edited ids clock (session.perform call).session

/-- A time that a clock shows at some time, or that can be read off its text. -/
def Clock.Accounts (clock : Clock) (moment : DateTime) : Prop :=
  moment.IsLegible ∨ ∃ index, clock.times index = moment

/-- The times of a form are accounted for by a clock. -/
structure FormHeader.TimesStem (clock : Clock) (header : FormHeader) : Prop where
  created : ∀ moment, header.created = some moment → clock.Accounts moment
  updated : ∀ moment, header.updated = some moment → clock.Accounts moment

/-- Where a clock shows legible times, the times of a form are read as they are. -/
theorem FormHeader.TimesStem.asRead {clock : Clock} {header : FormHeader}
    (stem : header.TimesStem clock) (legible : ∀ index, (clock.times index).IsLegible) :
    header.asRead = header := by
  have each : ∀ time : Option DateTime, (∀ moment, time = some moment → clock.Accounts moment) →
      time.map DateTime.asRead = time := by
    intro time accounted
    cases time with
    | none => rfl
    | some moment =>
      rcases accounted moment rfl with isLegible | ⟨index, rfl⟩
      · rw [Option.map_some, isLegible.asRead]
      · rw [Option.map_some, (legible index).asRead]
  simp [FormHeader.asRead, each _ stem.created, each _ stem.updated]

/-- A form that was read has what is needed to export it, if its values have the right types. -/
theorem Form.IsTyped.isExportable {form : Form} (typed : form.IsTyped)
    (readable : form.IsReadable) : form.IsExportable where
  header := {
    id := readable.id
    title := Value.IsText.isNonemptyText typed.header.title readable.title
    description := typed.header.description
    confirmation := Value.IsText.isNonemptyText typed.header.confirmation readable.confirmation
    redirect := typed.header.redirect
    created := readable.created
    updated := readable.updated }
  fields := fun field member =>
    ⟨(readable.fields field member).1.id, (readable.fields field member).2,
      typed.fields field member⟩
  distinct := readable.distinct
  placed := readable.placed

/-- Importing a form draws from the sources that it is given. -/
theorem sameSources_importForm (format : Format) (yaml : YamlLibrary) (strict : Bool)
    (supply : Supply) (text : Value) :
    supply.SameSources (importForm format yaml strict supply text).supply := by
  unfold importForm
  split
  · exact sameSources_readForm strict supply _
  · exact .refl supply

/-- A form that is imported from a text in JSON is read from a tree. -/
theorem exists_of_importForm_json {yaml : YamlLibrary} {strict : Bool} {supply : Supply}
    {text : Value} {form : Form}
    (imported : (importForm .json yaml strict supply text).result = .ok form) :
    ∃ document, document.IsJson ∧ (readForm strict supply document).result = .ok form := by
  unfold importForm at imported
  split at imported
  next document opened =>
    refine ⟨document, ?_, imported⟩
    cases text with
    | str text =>
      simp only [Format.read] at opened
      split at opened
      next read =>
        cases opened
        exact Json.isJson_of_read read
      next => cases opened
    | _ => cases opened
  next => cases imported

namespace Session

/-- A session that can be exported, with ids and times from given sources. -/
structure IsExportable (ids : IdSource) (clock : Clock) (session : Session) : Prop where
  store : session.store.IsExportable ids
  times : session.clock.times = clock.times
  header : ∀ current, session.current = some current →
    current.header.IsExportable ∧ current.header.TimesStem clock

variable {ids : IdSource} {clock : Clock} {session : Session}

/-- A new session can be exported. -/
theorem isExportable_new (ids : IdSource) (clock : Clock) (yaml : YamlLibrary) :
    (Session.new ids clock yaml).IsExportable ids clock where
  store := FieldStore.isExportable_empty ids
  times := rfl
  header := fun _ isCurrent => by cases isCurrent

namespace IsExportable

variable (exportable : session.IsExportable ids clock)
include exportable

/-- The present time is one that the clock shows. -/
theorem accounts_now : clock.Accounts session.supply.now.1 :=
  .inr ⟨session.clock.ticks, (congrFun exportable.times _).symm⟩

/-- A session can be exported with another store that can be exported. -/
theorem withStore {store : FieldStore} (storeExportable : store.IsExportable ids) :
    (session.withStore store).IsExportable ids clock :=
  { exportable with store := storeExportable }

/-- A session can be exported after ids and times were used up. -/
theorem withSupply {supply : Supply} (same : session.supply.SameSources supply) :
    (session.withSupply supply).IsExportable ids clock where
  store := exportable.store.withIds same.ids
  times := same.times.trans exportable.times
  header := exportable.header

/-- A session can be exported after it was saved. -/
theorem save : session.save.session.IsExportable ids clock := by
  unfold Session.save
  split
  · exact exportable
  · next current isCurrent =>
    obtain ⟨header, stem⟩ := exportable.header current isCurrent
    refine ⟨exportable.store, exportable.times, fun _ isCurrent => ?_⟩
    obtain rfl := Option.some.inj isCurrent
    refine ⟨{ header with updated := ⟨_, rfl⟩ }, stem.created, fun moment isUpdated => ?_⟩
    obtain rfl := Option.some.inj isUpdated
    exact exportable.accounts_now

/-- A session can be exported after it loaded a form that can be exported. -/
theorem loadForm {form loaded : Form} {after : Session} (formExportable : form.IsExportable)
    (stem : form.toFormHeader.TimesStem clock)
    (done : session.loadForm form = .ok (loaded, after)) : after.IsExportable ids clock := by
  obtain ⟨store, replaced, rfl⟩ := exists_store_of_loadForm done
  have orderly := FieldStore.orderly_of_replace replaced
  -- The fields of the form are in order, so the store takes them as they are.
  rw [FieldStore.replace_of_placed _ formExportable.placed formExportable.distinct] at replaced
  obtain rfl := Except.ok.inj replaced
  refine ⟨⟨exportable.store.stream, orderly, formExportable.fields⟩, exportable.times,
    fun _ isCurrent => ?_⟩
  obtain rfl := Option.some.inj isCurrent
  exact ⟨formExportable.header, stem⟩

section Named

variable (named : ∀ index, ids.stream index ≠ "")
include named

/-- The ids that are left to the session are not empty. -/
theorem namesFields : session.supply.NamesFields := by
  intro index
  have stream : session.supply.ids.stream = ids.stream := exportable.store.stream
  rw [stream]
  exact named index

/-- The header of a new form can be exported. -/
theorem newHeader {title description : Value} (isTitle : title.IsText)
    (isDescription : description.IsText) :
    (session.newHeader title description).1.IsExportable ∧
      (session.newHeader title description).1.TimesStem clock := by
  have nonempty : (title.orElse (.str defaultTitle)).IsNonemptyText := by
    refine Value.IsText.isNonemptyText ?_ (Value.truthy_orElse (by decide))
    unfold Value.orElse
    split
    · exact isTitle
    · exact ⟨defaultTitle, rfl⟩
  have now := exportable.accounts_now
  refine ⟨⟨exportable.namesFields named _, nonempty, isDescription, ⟨_, by decide, rfl⟩, .inl rfl,
    ⟨_, rfl⟩, ⟨_, rfl⟩⟩, fun moment isCreated => ?_, fun moment isUpdated => ?_⟩
  · obtain rfl := Option.some.inj isCreated
    exact now
  · obtain rfl := Option.some.inj isUpdated
    exact now

/-- A session can be exported after it started an empty form. -/
theorem create {title description : Value} (isTitle : title.IsText)
    (isDescription : description.IsText) :
    (session.create title description).session.IsExportable ids clock where
  store := ⟨exportable.store.stream, FieldStore.orderly_empty _, fun _ member => by cases member⟩
  times := exportable.times
  header := fun _ isCurrent => by
    obtain rfl := Option.some.inj isCurrent
    exact exportable.newHeader named isTitle isDescription

/-- A session has a form that can be exported, or makes one, and can be exported itself. -/
theorem ensureForm : session.ensureForm.2.IsExportable ids clock ∧
    session.ensureForm.1.header.IsExportable ∧ session.ensureForm.1.header.TimesStem clock := by
  unfold Session.ensureForm
  split
  · next current isCurrent => exact ⟨exportable, exportable.header current isCurrent⟩
  · have header := exportable.newHeader named ⟨defaultTitle, rfl⟩ ⟨"", rfl⟩
    refine ⟨⟨exportable.store.withIds rfl, exportable.times, fun _ isCurrent => ?_⟩, header⟩
    obtain rfl := Option.some.inj isCurrent
    exact header

/-- A session can be exported after it was exported. -/
theorem exportForm (format : Value) :
    (session.exportForm format).session.IsExportable ids clock := by
  unfold Session.exportForm
  split
  · exact exportable
  · exact (exportable.ensureForm named).1

/-- A session can be exported after it read a text in JSON, if the form in the text has values of
the right types. -/
theorem importText {text : Value} {strict : Bool}
    (typed : ∀ form, (importForm .json session.yaml strict session.supply text).result = .ok form →
      form.IsTyped) :
    (session.importText text (.str "json") strict).session.IsExportable ids clock := by
  have supplied := exportable.withSupply (sameSources_importForm .json session.yaml strict session.supply text)
  refine of_stepOf (IsExportable ids clock) supplied fun loaded after done => ?_
  obtain ⟨form, isRead, isLoaded⟩ := Result.bind_eq_ok_iff.mp done
  obtain ⟨document, tree, read⟩ := exists_of_importForm_json isRead
  have readable := (isReadable_of_readForm (exportable.namesFields named) read).1
  obtain ⟨created, updated, isCreated, isUpdated, createdStems, updatedStems⟩ :=
    times_of_readForm tree read
  have accounts : ∀ moment : DateTime, moment.IsLegible ∨ moment = session.supply.now.1 →
      clock.Accounts moment := by
    rintro moment (legible | rfl)
    · exact .inl legible
    · exact exportable.accounts_now
  refine supplied.loadForm ((typed form isRead).isExportable readable)
    ⟨fun moment given => ?_, fun moment given => ?_⟩ isLoaded
  · obtain rfl := Option.some.inj (isCreated.symm.trans given)
    exact accounts _ createdStems
  · obtain rfl := Option.some.inj (isUpdated.symm.trans given)
    exact accounts _ updatedStems

end Named

/-- A session can be exported after a field was changed. -/
theorem update {id : Value} {attributes : Attributes} (given : ∀ part ∈ attributes, part.IsTyped) :
    (session.update id attributes).session.IsExportable ids clock :=
  of_update (IsExportable ids clock) exportable fun _ _ updated =>
    exportable.withStore (exportable.store.update given updated)

/-- A session can be exported after a field was deleted. What becomes of the members of its form
does not matter. -/
theorem delete (id : Value) : (session.delete id).session.IsExportable ids clock := by
  unfold Session.delete
  split
  · exact exportable
  · next field found =>
    refine ⟨exportable.store.delete id, exportable.times, fun current isCurrent => ?_⟩
    obtain ⟨before, wasCurrent, rfl⟩ := Option.map_eq_some_iff.mp isCurrent
    exact exportable.header before wasCurrent

/-- A session can be exported after its preview was evaluated. -/
theorem evaluate : session.evaluate.session.IsExportable ids clock :=
  of_stepOf_return (IsExportable ids clock) exportable fun _ _ =>
    exportable.withStore (exportable.store.withPreview _)

end IsExportable

/-- A call with values of the right types keeps a session exportable, whether it succeeds or
fails. -/
theorem IsExportable.perform (named : ∀ index, ids.stream index ≠ "")
    (exportable : session.IsExportable ids clock) {call : SessionCall}
    (typed : call.IsTyped session) : (session.perform call).session.IsExportable ids clock := by
  cases call with
  | create title description => exact exportable.create named typed.1 typed.2
  | load form => exact typed.elim
  | save => exact exportable.save
  | snapshot => exact (exportable.ensureForm named).1
  | exportForm format => exact exportable.exportForm named format
  | importText text format strict =>
    obtain ⟨rfl, typedForm⟩ := typed
    exact exportable.importText named typedForm
  | add type attributes => exact exportable.withStore (exportable.store.add named type typed)
  | update id attributes => exact exportable.update typed
  | delete id => exact exportable.delete id
  | move source target =>
    exact of_stepOf_return (IsExportable ids clock) exportable fun _ moved =>
      exportable.withStore (exportable.store.move moved)
  | select id =>
    exact of_stepOf_return (IsExportable ids clock) exportable fun _ selected =>
      exportable.withStore (exportable.store.select selected)
  | replaceFields fields => exact typed.elim
  | answer id value =>
    exact of_stepOf_return (IsExportable ids clock) exportable fun _ _ =>
      exportable.withStore (exportable.store.withPreview _)
  | evaluate | submit => exact exportable.evaluate
  | usePreview preview => exact exportable.withStore (exportable.store.withPreview preview)

/-- An editor reaches the session after calls whose values have the right types in any session. -/
theorem Edited.run (edited : Edited ids clock session) {calls : List SessionCall}
    (typed : ∀ call ∈ calls, ∀ session, call.IsTyped session) :
    Edited ids clock (session.run calls) := by
  induction calls generalizing session with
  | nil => exact edited
  | cons call rest inductionHypothesis =>
    obtain ⟨first, later⟩ := List.forall_mem_cons.mp typed
    exact inductionHypothesis (edited.called (first session)) later

/-- Every session that an editor reaches can be exported. -/
theorem Edited.isExportable (named : ∀ index, ids.stream index ≠ "")
    (edited : Edited ids clock session) : session.IsExportable ids clock := by
  induction edited with
  | new yaml => exact isExportable_new ids clock yaml
  | called _ typed inductionHypothesis => exact inductionHypothesis.perform named typed

end Session

end FormEngine
