import FormEngine.Proofs.Document.Readable
import FormEngine.Proofs.Session.Failure
import FormEngine.Proofs.Store.Options
import FormEngine.Yaml.Library

/-!
# Options of the fields of a session

A session takes in fields with a form that it loads or in place of all others, and neither asks for
options. Only an import does. So the fields of a session that lack options, those of its form
included, are fields that were handed to it.
-/

namespace FormEngine

/-- The members of a form that the store has no more. -/
def CurrentForm.detached (current : CurrentForm) : List Field :=
  current.members.filterMap fun
    | .shared _ => none
    | .detached field => some field

/-- The detached members after a change that at most detaches members were detached before or are
fields of the store. -/
theorem CurrentForm.detached_map_subset (current : CurrentForm) {store : FieldStore}
    {change : Member → Member}
    (keeps : ∀ member, change member = member ∨ change member = member.detach store) :
    ({ current with members := current.members.map change } : CurrentForm).detached ⊆
      store.fields ++ current.detached := by
  intro field isDetached
  simp only [detached, List.mem_filterMap, List.mem_map] at isDetached
  obtain ⟨_, ⟨member, isMember, rfl⟩, isField⟩ := isDetached
  rw [List.mem_append]
  cases member with
  | detached other =>
    have same : change (.detached other) = .detached other := by
      simpa [Member.detach] using keeps (.detached other)
    rw [same] at isField
    obtain rfl := Option.some.inj isField
    exact .inr (List.mem_filterMap.mpr ⟨_, isMember, rfl⟩)
  | shared id =>
    rcases keeps (.shared id) with same | same
    · simp [same] at isField
    · cases found : fieldWithId? store.fields id with
      | none => simp [same, Member.detach, found] at isField
      | some stored =>
        simp only [same, Member.detach, found, Option.some.injEq] at isField
        exact .inl (isField ▸ List.mem_of_find?_eq_some found)

/-- No member that is a field of the store is detached. -/
theorem CurrentForm.detached_membersOf (header : FormHeader) (store : FieldStore) :
    ({ header, members := Session.membersOf store } : CurrentForm).detached = [] := by
  simp [detached, Session.membersOf]

namespace Session

/-- The fields of a session: those that are edited, and those that only its form still has. -/
def heldFields (session : Session) : List Field :=
  session.store.fields ++ session.current.elim [] CurrentForm.detached

/-- The session holds the fields of its form. -/
theorem fields_currentForm_subset {session : Session} {form : Form}
    (isCurrent : session.currentForm? = some form) : form.fields ⊆ session.heldFields := by
  obtain ⟨current, isThere, rfl⟩ := Option.map_eq_some_iff.mp isCurrent
  intro field member
  obtain ⟨source, isMember, found⟩ := List.mem_filterMap.mp member
  rw [heldFields, List.mem_append]
  cases source with
  | shared id => exact .inl (List.mem_of_find?_eq_some found)
  | detached other =>
    obtain rfl := Option.some.inj found
    rw [isThere]
    exact .inr (List.mem_filterMap.mpr ⟨_, isMember, rfl⟩)

variable {session after : Session}

/-- The fields that lack options after work on the store stem from those before, if they do so in
the store. -/
theorem lackingFrom_of_store {given : List Field} (current : after.current = session.current)
    (lacking : LackingFrom (session.store.fields ++ given) after.store.fields) :
    LackingFrom (session.heldFields ++ given) after.heldFields := by
  rw [heldFields, heldFields, current]
  exact .append (lacking.mono (by simp)) (.of_subset (by simp))

/-- So they do if only ids, times, the selection or the preview change. -/
theorem lackingFrom_of_same {given : List Field} (current : after.current = session.current)
    (fields : after.store.fields = session.store.fields) :
    LackingFrom (session.heldFields ++ given) after.heldFields :=
  lackingFrom_of_store current (fields ▸ .of_subset (List.subset_append_left ..))

/-- So they do if members of the form are detached at the same time. -/
theorem lackingFrom_detaching {store : FieldStore} {given : List Field} {change : Member → Member}
    (keeps : ∀ member, change member = member ∨ change member = member.detach session.store)
    (lacking : LackingFrom (session.store.fields ++ given) store.fields) :
    LackingFrom (session.heldFields ++ given)
      ({ session with
          store
          current := session.current.map fun current =>
            { current with members := current.members.map change } } : Session).heldFields := by
  refine .append (lacking.mono (by simp [heldFields])) (.of_subset ?_)
  cases isThere : session.current with
  | none => exact List.nil_subset _
  | some current =>
    have subset := current.detached_map_subset keeps
    simp only [heldFields, isThere, Option.elim]
    exact List.Subset.trans subset (List.subset_append_left ..)

/-- After a step that either succeeds or changes nothing, the fields that lack options stem from
those before, if they do so where it succeeds. -/
theorem lackingFrom_stepOf {α : Type} {given : List Field} {result : Except Fault (α × Session)}
    (whenDone : ∀ value after, result = .ok (value, after) →
      LackingFrom (session.heldFields ++ given) after.heldFields) :
    LackingFrom (session.heldFields ++ given) (session.stepOf result).session.heldFields :=
  of_stepOf (LackingFrom (session.heldFields ++ given) ·.heldFields) (lackingFrom_of_same rfl rfl)
    whenDone

/-- In most steps the session is made of one result, such as another store. -/
theorem lackingFrom_stepOf_return {α β : Type} {given : List Field} {result : Except Fault β}
    {next : β → α × Session}
    (whenDone : ∀ value, result = .ok value →
      LackingFrom (session.heldFields ++ given) (next value).2.heldFields) :
    LackingFrom (session.heldFields ++ given)
      (session.stepOf (do return next (← result))).session.heldFields :=
  of_stepOf_return (LackingFrom (session.heldFields ++ given) ·.heldFields)
    (lackingFrom_of_same rfl rfl) whenDone

/-- Loading a form replaces the fields by those of the form, and no member is detached. -/
theorem loadForm_eq_ok {form loaded : Form} (done : session.loadForm form = .ok (loaded, after)) :
    session.store.replace form.fields = .ok after.store ∧
      after.heldFields = after.store.fields := by
  obtain ⟨store, replaced, rfl⟩ := exists_store_of_loadForm done
  exact ⟨replaced, by simp [heldFields, CurrentForm.detached_membersOf]⟩

/-- After loading a form, the fields that lack options stem from those of the form. -/
theorem lackingFrom_loadForm {form loaded : Form}
    (done : session.loadForm form = .ok (loaded, after)) :
    LackingFrom form.fields after.heldFields := by
  obtain ⟨replaced, held⟩ := loadForm_eq_ok done
  exact held ▸ FieldStore.lackingFrom_replace replaced

/-- The fields of a form that is imported have the options that they need. -/
theorem offersOptions_of_importForm {format : Format} {yaml : YamlLibrary} {strict : Bool}
    {supply : Supply} {text : Value} {form : Form}
    (read : (importForm format yaml strict supply text).result = .ok form) :
    ∀ field ∈ form.fields, field.OffersOptions := by
  unfold importForm at read
  split at read
  · exact offersOptions_of_readForm read
  · cases read

/-- After an import that succeeds, no field of the session lacks options. -/
theorem offersOptions_of_importText {text format : Value} {strict : Bool} {form : Form}
    (done : (session.importText text format strict).result = .ok form) :
    ∀ field ∈ (session.importText text format strict).session.heldFields, field.OffersOptions := by
  unfold importText at done ⊢
  split
  · next refused =>
    rw [refused] at done
    cases done
  · next format isFormat =>
    rw [isFormat] at done
    obtain ⟨read, isRead, loaded⟩ := Result.bind_eq_ok_iff.mp (stepOf_eq_ok done)
    have offers := offersOptions_of_importForm isRead
    intro field member
    by_contra lacks
    obtain ⟨origin, isOrigin, stems⟩ := lackingFrom_loadForm loaded field member lacks
    exact lacks (stems.offersOptions_iff.mpr (offers origin isOrigin))

/-- An import, whether it succeeds or fails, brings in no field that lacks options. -/
theorem lackingFrom_importText (session : Session) (text format : Value) (strict : Bool)
    {given : List Field} :
    LackingFrom (session.heldFields ++ given)
      (session.importText text format strict).session.heldFields := by
  cases done : (session.importText text format strict).result with
  | error fault =>
    have same := sameWork_importText done
    exact lackingFrom_of_same same.current same.fields
  | ok form => exact .of_offers (offersOptions_of_importText done)

/-- Making sure that there is a form changes no field. -/
theorem heldFields_ensureForm (session : Session) :
    session.ensureForm.2.heldFields = session.heldFields := by
  unfold ensureForm
  split
  · rfl
  · next none => simp [heldFields, newHeader, withSupply, supply, none, CurrentForm.detached]

/-- Deleting a field, or failing to, brings in no field. -/
theorem lackingFrom_delete (session : Session) (id : Value) {given : List Field} :
    LackingFrom (session.heldFields ++ given) (session.delete id).session.heldFields := by
  unfold Session.delete
  split
  · exact lackingFrom_of_same rfl rfl
  · next field found =>
    have deleted := FieldStore.lackingFrom_delete session.store id
    refine lackingFrom_detaching (fun member => ?_) (deleted.mono (List.subset_append_left ..))
    unfold Member.detachId
    split
    · exact .inr rfl
    · exact .inl rfl

/-- Replacing the fields brings in none but those that are handed over. -/
theorem lackingFrom_replaceFields (session : Session) (fields : List Field) :
    LackingFrom (session.heldFields ++ fields) (session.replaceFields fields).session.heldFields := by
  refine lackingFrom_stepOf_return fun store replaced => ?_
  have handedOver := FieldStore.lackingFrom_replace replaced
  exact lackingFrom_detaching (fun _ => .inr rfl) (handedOver.mono (List.subset_append_right ..))

/-- After a call, the fields of a session that lack options stem from those before it and those that
it hands over. -/
theorem lackingFrom_perform (session : Session) (call : SessionCall) :
    LackingFrom (session.heldFields ++ call.given) (session.perform call).session.heldFields := by
  cases call with
  | create title description => exact .of_subset (List.nil_subset _)
  | load form =>
    refine lackingFrom_stepOf fun loaded after done => ?_
    exact (lackingFrom_loadForm done).mono (List.subset_append_right ..)
  | save =>
    simp only [perform, save, Step.plain]
    split
    · exact lackingFrom_of_same rfl rfl
    · exact .of_subset (by simp [heldFields, CurrentForm.detached_membersOf])
  | snapshot => exact .of_subset (heldFields_ensureForm session ▸ List.subset_append_left ..)
  | exportForm format =>
    simp only [perform, exportForm, Step.plain]
    split
    · exact lackingFrom_of_same rfl rfl
    · exact .of_subset (heldFields_ensureForm session ▸ List.subset_append_left ..)
  | importText text format strict => exact lackingFrom_importText session text format strict
  | add type attributes =>
    have added := FieldStore.lackingFrom_add session.store type attributes
    exact lackingFrom_of_store rfl (added.mono (List.subset_append_left ..))
  | update id attributes =>
    refine of_update (LackingFrom _ ·.heldFields) (lackingFrom_of_same rfl rfl) fun _ _ updated => ?_
    have changed := FieldStore.lackingFrom_update updated
    exact lackingFrom_of_store rfl (changed.mono (List.subset_append_left ..))
  | delete id => exact lackingFrom_delete session id
  | move source target =>
    refine lackingFrom_stepOf_return fun store moved => ?_
    have arranged := FieldStore.lackingFrom_move moved
    exact lackingFrom_of_store rfl (arranged.mono (List.subset_append_left ..))
  | select id =>
    refine lackingFrom_stepOf_return fun store selected => ?_
    exact lackingFrom_of_same rfl (FieldStore.fields_of_select selected)
  | replaceFields fields => exact lackingFrom_replaceFields session fields
  | answer id value =>
    exact lackingFrom_stepOf_return fun field _ => lackingFrom_of_same rfl rfl
  | evaluate | submit =>
    exact lackingFrom_stepOf_return fun evaluation _ => lackingFrom_of_same rfl rfl
  | usePreview preview => exact lackingFrom_of_same rfl rfl

/-- In a run of a session, fields that lack options stem from those that calls hand over. -/
theorem lackingFrom_run (ids : IdSource) (clock : Clock) (yaml : YamlLibrary)
    (calls : List SessionCall) :
    LackingFrom (calls.flatMap SessionCall.given) ((new ids clock yaml).run calls).heldFields :=
  LackingFrom.foldl lackingFrom_perform (new ids clock yaml) calls

/-- Some field of a session lacks options after loading a form exactly if one of the form does. -/
theorem exists_lacking_load_iff {form loaded : Form}
    (done : (session.load form).result = .ok loaded) :
    (∃ field ∈ (session.load form).session.store.fields, ¬field.OffersOptions) ↔
      ∃ field ∈ form.fields, ¬field.OffersOptions :=
  FieldStore.exists_lacking_replace_iff (loadForm_eq_ok (stepOf_eq_ok done)).1

end Session

/-- Fields that lack the options that their types need come in by being handed over, and in no other
way: in every state of a store or a session, the form of the session included, they stem from the
fields that the store was built of and those that calls replaced others by or loaded with a form.
They do come in that way: after fields are replaced or a form is loaded, a field lacks options
exactly if one of those that were handed over does. After an import none does. -/
theorem lacking_fields_are_handed_over (ids : IdSource) (clock : Clock) (yaml : YamlLibrary) :
    (∀ fields store calls, FieldStore.ofFields ids fields = .ok store →
      LackingFrom (fields ++ calls.flatMap StoreCall.given) (store.run calls).fields) ∧
    (∀ calls, LackingFrom (calls.flatMap SessionCall.given)
        ((Session.new ids clock yaml).run calls).store.fields ∧
      ∀ form ∈ ((Session.new ids clock yaml).run calls).currentForm?,
        LackingFrom (calls.flatMap SessionCall.given) form.fields) ∧
    (∀ (store after : FieldStore) fields, store.replace fields = .ok after →
      ((∃ field ∈ after.fields, ¬field.OffersOptions) ↔ ∃ field ∈ fields, ¬field.OffersOptions)) ∧
    (∀ (session : Session) form loaded, (session.load form).result = .ok loaded →
      ((∃ field ∈ (session.load form).session.store.fields, ¬field.OffersOptions) ↔
        ∃ field ∈ form.fields, ¬field.OffersOptions)) ∧
    ∀ (session : Session) text format strict form,
      (session.importText text format strict).result = .ok form →
        ∀ field ∈ (session.importText text format strict).session.store.fields,
          field.OffersOptions := by
  refine ⟨fun fields store calls built => FieldStore.lackingFrom_run built calls, fun calls => ?_,
    fun store after fields done => FieldStore.exists_lacking_replace_iff done,
    fun session form loaded done => Session.exists_lacking_load_iff done, ?_⟩
  · have held := Session.lackingFrom_run ids clock yaml calls
    refine ⟨fun field member => held field (List.mem_append_left _ member), ?_⟩
    intro form isCurrent field member
    exact held field (Session.fields_currentForm_subset isCurrent member)
  · intro session text format strict form done field member
    exact Session.offersOptions_of_importText done field (List.mem_append_left _ member)

/-- A form with a dropdown that has nothing to choose from. -/
def bareForm : Form where
  id := "bare"
  fields := [{ id := "topic", type := .select, label := .str "Topic" }]

/-- The dropdown comes into a store and into a session, where it outlives a change that is refused.
Importing a form without fields does away with it. -/
theorem lacking_fields_are_handed_over_bareForm :
    let ids : IdSource := .counting "f"
    let loaded := ((Session.new ids (.still .startOf2024) Yaml.library).load bareForm).session
    let calls : List SessionCall :=
      [.load bareForm, .update (.str "topic") [.label (.str "Subject")], .add (.str "radio") []]
    let edited := (Session.new ids (.still .startOf2024) Yaml.library).run calls
    ∃ store after text read,
      FieldStore.ofFields ids bareForm.fields = .ok store ∧
      LackingFrom bareForm.fields store.fields ∧
      store.replace bareForm.fields = .ok after ∧
      (∃ field ∈ after.fields, ¬field.OffersOptions) ∧
      (∃ field ∈ loaded.store.fields, ¬field.OffersOptions) ∧
      edited.store.fields.map Field.optionValues = [[], ["option1", "option2"]] ∧
      LackingFrom bareForm.fields edited.store.fields ∧
      (loaded.importText (.str text) (.str "json") true).result = .ok read ∧
      ∀ field ∈ (loaded.importText (.str text) (.str "json") true).session.store.fields,
        field.OffersOptions := by
  intro ids loaded calls edited
  obtain ⟨built, ran, replaced, loadedForm, imported⟩ :=
    lacking_fields_are_handed_over ids (.still .startOf2024) Yaml.library
  have bare : ∃ field ∈ bareForm.fields, ¬field.OffersOptions :=
    ⟨_, .head _, fun offers => offers rfl rfl⟩
  let text := String.ofList ['{', '"', 'f', 'i', 'e', 'l', 'd', 's', '"', ':', '[', ']', '}']
  have isRead : Json.read text = some (.record [("fields", .list [])]) := by
    rw [Json.read, String.toList_ofList]
    rfl
  have succeeds : (loaded.importText (.str text) (.str "json") true).result.isOk = true := by
    simp only [Session.importText, Format.ofValue, importForm, Format.read, isRead]
    decide +kernel
  obtain ⟨read, isImported⟩ := Result.exists_of_isOk succeeds
  exact ⟨_, _, text, read, rfl, built bareForm.fields _ [] rfl, rfl,
    (replaced _ _ bareForm.fields rfl).mpr bare, (loadedForm _ bareForm _ rfl).mpr bare, rfl,
    (ran calls).1, isImported, imported loaded _ _ _ read isImported⟩

end FormEngine
