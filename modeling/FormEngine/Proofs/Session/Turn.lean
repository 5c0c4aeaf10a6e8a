import FormEngine.Proofs.Session.Failure
import FormEngine.Proofs.Store.Options

/-!
# What a call does to the fields and the members of a session

The fields of the store and the members of the current form change independently. A call lists the
fields of the store as the members, or it adds, moves or takes away fields of the store while the
form has the members that it had; fields that are taken away stay with the form as they were. All
other calls, and all that fail, leave both as they are. Whatever happens, the store stays orderly.
-/

namespace FormEngine

namespace SessionCall

/-- A call that makes the fields of the store the members of the current form. -/
def listsFields : SessionCall → Bool
  | .create .. | .load _ | .importText .. | .save => true
  | _ => false

/-- A call that adds a field to the store. -/
def addsField : SessionCall → Bool
  | .add .. => true
  | _ => false

/-- A call that moves a field of the store. -/
def movesField : SessionCall → Bool
  | .move .. => true
  | _ => false

/-- A call that takes fields away from the store, and does not list those that are left. -/
def losesFields : SessionCall → Bool
  | .delete _ | .replaceFields _ => true
  | _ => false

end SessionCall

namespace Session

/-- The members of the current form. A session without a form has none. -/
def members (session : Session) : List Member :=
  session.current.elim [] CurrentForm.members

/-- The fields of the current form are those of the members. -/
theorem fields_of_currentForm {session : Session} {form : Form}
    (isCurrent : session.currentForm? = some form) :
    form.fields = session.members.filterMap (Member.field? session.store) := by
  obtain ⟨current, isThere, rfl⟩ := Option.map_eq_some_iff.mp isCurrent
  simp only [members, isThere, Option.elim, CurrentForm.form]

/-- What a call does to the ids in the store and to the members. -/
inductive Turn (before : Session) (call : SessionCall) (after : Session) : Prop where
  /-- The fields that are in the store now are the members. -/
  | listed (members : after.members = membersOf after.store)
  /-- Nothing changes. -/
  | kept (members : after.members = before.members)
      (ids : after.store.fieldIds = before.store.fieldIds)
  /-- A field comes behind the others. -/
  | added (adds : call.addsField) (members : after.members = before.members) (id : String)
      (ids : after.store.fieldIds = before.store.fieldIds ++ [id])
  /-- The same fields are in another order. -/
  | moved (moves : call.movesField) (members : after.members = before.members)
      (ids : after.store.fieldIds.Perm before.store.fieldIds)
  /-- A field is deleted, and stays with the form if it is a member. -/
  | deleted (loses : call.losesFields) (id : String)
      (members : after.members = before.members.map (Member.detachId before.store id))
      (store : after.store = (before.store.delete (.str id)).state)
  /-- All fields may be others, and those that are members stay with the form. -/
  | replaced (loses : call.losesFields)
      (members : after.members = before.members.map (Member.detach before.store))

/-- A call that leaves the store orderly takes a turn. -/
def TakesTurn (before : Session) (call : SessionCall) (after : Session) : Prop :=
  after.store.Orderly ∧ Turn before call after

variable {session after : Session} {call : SessionCall}

/-- The members of the form after all of them were changed. -/
theorem members_map (session : Session) (store : FieldStore) (change : Member → Member) :
    ({ session with
        store
        current := session.current.map fun current =>
          { current with members := current.members.map change } } : Session).members =
      session.members.map change := by
  cases isThere : session.current <;> simp [members, isThere]

/-- A form that is loaded lists the fields, which are in order. -/
theorem listed_loadForm {form loaded : Form} (done : session.loadForm form = .ok (loaded, after)) :
    after.store.Orderly ∧ after.members = membersOf after.store := by
  obtain ⟨store, replaced, rfl⟩ := exists_store_of_loadForm done
  exact ⟨FieldStore.orderly_of_replace replaced, rfl⟩

/-- A field that is deleted is detached from the form. -/
theorem store_and_members_delete {id : Value} {field : Field}
    (found : session.store.requireField id = .ok field) :
    (session.delete id).session.store = (session.store.delete id).state ∧
      (session.delete id).session.members =
        session.members.map (Member.detachId session.store field.id) := by
  unfold Session.delete
  rw [found]
  exact ⟨rfl, members_map session _ _⟩

/-- A call takes a turn if it may load a form, and takes one where it does not. -/
theorem takesTurn_loadForm {before : Session} (result : Except Fault Form)
    (otherwise : TakesTurn before call session) :
    TakesTurn before call (session.stepOf (result >>= session.loadForm)).session := by
  refine of_stepOf (TakesTurn before call) otherwise fun loaded after done => ?_
  obtain ⟨form, -, isLoaded⟩ := Result.bind_eq_ok_iff.mp done
  obtain ⟨orderly, listed⟩ := listed_loadForm isLoaded
  exact ⟨orderly, .listed listed⟩

section

variable (orderly : session.store.Orderly)
include orderly

/-- A call may leave the members and the fields as they are. -/
theorem takesTurn_kept (members : after.members = session.members)
    (fields : after.store.fields = session.store.fields)
    (selected : after.store.selected = session.store.selected) : TakesTurn session call after := by
  have ids : after.store.fieldIds = session.store.fieldIds := by
    rw [FieldStore.fieldIds, fields, FieldStore.fieldIds]
  exact ⟨orderly.of_same ids (by rw [fields]) (selected ▸ orderly.selectedStored),
    .kept members ids⟩

/-- It may make sure that there is a form. One that is made has no members. -/
theorem takesTurn_ensureForm : TakesTurn session call session.ensureForm.2 := by
  unfold ensureForm
  split
  · exact takesTurn_kept orderly rfl rfl rfl
  · next none => exact takesTurn_kept orderly (by simp [members, none]) rfl rfl

/-- Deleting a field takes a turn. -/
theorem takesTurn_delete (id : Value) :
    TakesTurn session (.delete id) (session.delete id).session := by
  cases found : session.store.requireField id with
  | error fault =>
    have same : (session.delete id).session = session := by
      unfold Session.delete
      rw [found]
      rfl
    rw [same]
    exact takesTurn_kept orderly rfl rfl rfl
  | ok field =>
    obtain ⟨index, rfl, -⟩ := FieldStore.exists_indexOf found
    obtain ⟨store, members⟩ := store_and_members_delete found
    exact ⟨store ▸ orderly.delete _, .deleted rfl field.id members store⟩

/-- Every call takes a turn. -/
theorem takesTurn_perform (call : SessionCall) :
    TakesTurn session call (session.perform call).session := by
  have unchanged {call : SessionCall} : TakesTurn session call session :=
    takesTurn_kept orderly rfl rfl rfl
  cases call with
  | create title description => exact ⟨FieldStore.orderly_empty _, .listed rfl⟩
  | load form => exact takesTurn_loadForm (.ok form) unchanged
  | save =>
    simp only [Session.perform, Session.save, Step.plain]
    split
    · exact unchanged
    · exact ⟨orderly, .listed rfl⟩
  | snapshot => exact takesTurn_ensureForm orderly
  | exportForm format =>
    simp only [Session.perform, Session.exportForm, Session.snapshot, Step.plain]
    split
    · exact unchanged
    · exact takesTurn_ensureForm orderly
  | importText text format strict =>
    simp only [Session.perform, Session.importText, Step.plain]
    split
    · exact unchanged
    · exact takesTurn_loadForm _ (takesTurn_kept orderly rfl rfl rfl)
  | add type attributes =>
    have added := orderly.add type attributes
    rcases FieldStore.fieldIds_add session.store type attributes with same | ⟨id, ids⟩
    · exact ⟨added, .kept rfl same⟩
    · exact ⟨added, .added rfl rfl id ids⟩
  | update id attributes =>
    refine of_update (TakesTurn session _) unchanged fun field store updated => ?_
    exact ⟨orderly.update updated, .kept rfl (FieldStore.fieldIds_update updated)⟩
  | delete id => exact takesTurn_delete orderly id
  | move source target =>
    exact of_stepOf_return (TakesTurn session _) unchanged fun _ moved =>
      ⟨orderly.move moved, .moved rfl rfl (FieldStore.fieldIds_move moved)⟩
  | select id =>
    refine of_stepOf_return (TakesTurn session _) unchanged fun store selected => ?_
    have fields := FieldStore.fields_of_select selected
    exact ⟨orderly.select selected, .kept rfl (congrArg (List.map Field.id) fields)⟩
  | replaceFields fields =>
    exact of_stepOf_return (TakesTurn session _) unchanged fun _ replaced =>
      ⟨FieldStore.orderly_of_replace replaced, .replaced rfl (members_map session _ _)⟩
  | answer id value =>
    exact of_stepOf_return (TakesTurn session _) unchanged fun _ _ =>
      takesTurn_kept orderly rfl rfl rfl
  | evaluate | submit =>
    exact of_stepOf_return (TakesTurn session _) unchanged fun _ _ =>
      takesTurn_kept orderly rfl rfl rfl
  | usePreview preview => exact takesTurn_kept orderly rfl rfl rfl

/-- The store stays orderly along a run. -/
theorem orderly_run (calls : List SessionCall) : (session.run calls).store.Orderly := by
  induction calls generalizing session with
  | nil => exact orderly
  | cons call rest inductionHypothesis =>
    exact inductionHypothesis (takesTurn_perform orderly call).1

end

end Session

end FormEngine
