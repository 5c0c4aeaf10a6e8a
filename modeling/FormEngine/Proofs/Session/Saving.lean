import FormEngine.Proofs.Session.Numbering

/-!
# Only saving writes the form

The current form has its header and the list of its members from the call that made, loaded,
imported or saved it last. All other calls, whether they succeed or fail, leave both to it: they may
change the fields that the form shares with the store, and a member that the store loses stays with
the form as the field that it was. Exporting only reads, but for making a form where there is none,
so that the next export gives the same text.
-/

namespace FormEngine

/-- What may become of a member while the form is not written: it stays as it is, or it is kept as
the field that the store had of it. -/
inductive Member.Stays (store : FieldStore) : Member → Member → Prop where
  | same (member : Member) : Stays store member member
  | left {id : String} {field : Field} (had : fieldWithId? store.fields id = some field) :
      Stays store (.shared id) (.detached field)

namespace Member

variable {store : FieldStore} {member after : Member}

/-- A member that is detached stays. -/
theorem stays_detach (store : FieldStore) (member : Member) :
    Stays store member (member.detach store) := by
  cases member with
  | detached field => exact .same _
  | shared id =>
    simp only [detach]
    split
    · next field found => exact .left found
    · exact .same _

/-- All members stay if those with an id are detached. -/
theorem stays_detachId (store : FieldStore) (id : String) (member : Member) :
    Stays store member (member.detachId store id) := by
  unfold detachId
  split
  · exact stays_detach store member
  · exact .same _

/-- A member that stays has the id that it had. -/
theorem Stays.id_eq (stays : Stays store member after) : after.id = member.id := by
  cases stays with
  | same => rfl
  | @left id field had =>
    have isField : (shared id).field? store = some field := had
    exact id_of_field? isField

/-- Members that stay have the ids that they had. -/
theorem ids_of_stays {members afterwards : List Member}
    (stay : List.Forall₂ (Stays store) members afterwards) : afterwards.map id = members.map id := by
  induction stay with
  | nil => rfl
  | cons first _ inductionHypothesis =>
    simp only [List.map_cons, first.id_eq, inductionHypothesis]

end Member

/-- A form keeps its header, and its members stay in their order. -/
structure CurrentForm.Stays (store : FieldStore) (current after : CurrentForm) : Prop where
  header : after.header = current.header
  members : List.Forall₂ (Member.Stays store) current.members after.members

/-- A form stays if its members do. -/
theorem CurrentForm.Stays.of_map {store : FieldStore} {change : Member → Member}
    (stays : ∀ member, Member.Stays store member (change member)) (current : CurrentForm) :
    current.Stays store { current with members := current.members.map change } where
  header := rfl
  members := List.forall₂_map_right_iff.mpr (List.forall₂_same.mpr fun member _ => stays member)

theorem CurrentForm.Stays.refl (store : FieldStore) (current : CurrentForm) :
    current.Stays store current :=
  ⟨rfl, List.forall₂_same.mpr fun member _ => .same member⟩

/-- A call that takes a snapshot of the form, to give it or a text of it. -/
def SessionCall.takesSnapshot : SessionCall → Bool
  | .snapshot | .exportForm _ => true
  | _ => false

namespace Session

variable {session after : Session} {call : SessionCall}

/-- Where there is a form, nothing is needed to make sure of it. -/
theorem ensureForm_of_current {current : CurrentForm} (isCurrent : session.current = some current) :
    session.ensureForm = (current, session) := by
  simp only [ensureForm, isCurrent]

/-- Once there is a form it is the form that is found. -/
theorem ensureForm_ensureForm (session : Session) :
    session.ensureForm.2.ensureForm = session.ensureForm := by
  cases isCurrent : session.current with
  | some current => rw [ensureForm_of_current isCurrent, ensureForm_of_current isCurrent]
  | none =>
    simp only [ensureForm, isCurrent]

/-- Making sure of a form leaves the fields, the selection and the preview. -/
theorem store_ensureForm (session : Session) :
    session.ensureForm.2.store.fields = session.store.fields ∧
      session.ensureForm.2.store.selected = session.store.selected ∧
      session.ensureForm.2.store.preview = session.store.preview := by
  unfold ensureForm
  split
  · exact ⟨rfl, rfl, rfl⟩
  · exact ⟨rfl, rfl, rfl⟩

/-- A call that takes a snapshot does nothing to the session but to make sure of a form. -/
theorem session_of_takesSnapshot (takes : call.takesSnapshot) :
    (session.perform call).session = session ∨
      (session.perform call).session = session.ensureForm.2 := by
  cases call with
  | snapshot => exact .inr rfl
  | exportForm format =>
    simp only [perform, exportForm, Step.plain]
    split
    · exact .inl rfl
    · exact .inr rfl
  | _ => cases takes

/-- It does nothing where there is a form. -/
theorem session_of_takesSnapshot_of_current (takes : call.takesSnapshot) {current : CurrentForm}
    (isCurrent : session.current = some current) : (session.perform call).session = session := by
  rcases session_of_takesSnapshot takes with same | ensured
  · exact same
  · rw [ensured, ensureForm_of_current isCurrent]

/-- A second snapshot is the same. -/
theorem snapshot_snapshot (session : Session) :
    session.snapshot.session.snapshot = session.snapshot := by
  unfold snapshot
  simp only [ensureForm_ensureForm]

/-- A second export is the same, whether it gives a text or not. -/
theorem exportForm_exportForm (session : Session) (format : Value) :
    (session.exportForm format).session.exportForm format = session.exportForm format := by
  unfold exportForm
  cases Format.ofValue format with
  | error fault => rfl
  | ok format => simp only [snapshot_snapshot, yaml_snapshot]

/-- The form of a session, if there is one, stays in the other. -/
def KeepsForm (session after : Session) : Prop :=
  ∀ current, session.current = some current →
    ∃ kept, after.current = some kept ∧ current.Stays session.store kept

/-- It stays where the form is left alone. -/
theorem keepsForm_of_same (same : after.current = session.current) : session.KeepsForm after :=
  fun current isCurrent => ⟨current, same.trans isCurrent, .refl _ current⟩

/-- It stays where all members do. -/
theorem keepsForm_of_map {change : Member → Member}
    (stays : ∀ member, Member.Stays session.store member (change member))
    (changed : after.current = session.current.map fun current =>
      { current with members := current.members.map change }) : session.KeepsForm after :=
  fun current isCurrent => ⟨_, by rw [changed, isCurrent]; rfl, .of_map stays current⟩

/-- It stays where a snapshot is taken. -/
theorem keepsForm_of_takesSnapshot (takes : call.takesSnapshot) :
    session.KeepsForm (session.perform call).session := by
  intro current isCurrent
  have same := session_of_takesSnapshot_of_current takes isCurrent
  exact keepsForm_of_same (congrArg Session.current same) current isCurrent

/-- Calls that list no fields keep the form, whether they succeed or fail. -/
theorem keepsForm_perform (session : Session) (call : SessionCall)
    (listsNone : call.listsFields = false) : session.KeepsForm (session.perform call).session := by
  have unchanged : session.KeepsForm session := keepsForm_of_same rfl
  cases call with
  | create | load | importText | save => cases listsNone
  | snapshot | exportForm => exact keepsForm_of_takesSnapshot rfl
  | add => exact keepsForm_of_same rfl
  | update => exact of_update session.KeepsForm unchanged fun _ _ _ => keepsForm_of_same rfl
  | delete id =>
    show session.KeepsForm (session.delete id).session
    unfold Session.delete
    split
    · exact unchanged
    · next field _ => exact keepsForm_of_map (Member.stays_detachId session.store field.id) rfl
  | replaceFields =>
    exact of_stepOf_return session.KeepsForm unchanged fun _ _ =>
      keepsForm_of_map (Member.stays_detach session.store) rfl
  | move | select | answer | evaluate | submit =>
    exact of_stepOf_return session.KeepsForm unchanged fun _ _ => keepsForm_of_same rfl
  | usePreview => exact keepsForm_of_same rfl

/-- The ids of the fields of the form are those of its members. -/
theorem KeepsMembers.fieldIds {form : Form} (keeps : session.KeepsMembers)
    (isCurrent : session.currentForm? = some form) : form.fieldIds = session.members.map Member.id := by
  have sublist := Member.sublist_ids session.store session.members
  rw [← fields_of_currentForm isCurrent] at sublist
  exact sublist.eq_of_length (by simp [keeps.length_fields isCurrent])

/-- Only creating, loading, importing and saving write the form. Any other call on a session with a
form, whether it succeeds or fails, leaves to the form its header with all of its settings and times,
and its members in their order: each is the field of the store that it was, or the one that the store
has lost, as it was. So the fields of the form keep their ids, whatever calls led to the session.
Snapshots and exports leave the fields, the selection and the preview of every session as they are,
all of the session if it has a form, and an export that is made again gives the same text. -/
theorem only_saving_writes :
    (∀ (session : Session) (call : SessionCall) (form : Form), call.listsFields = false →
      session.currentForm? = some form →
      let after := (session.perform call).session
      ∃ kept, after.currentForm? = some kept ∧ kept.toFormHeader = form.toFormHeader ∧
        List.Forall₂ (Member.Stays session.store) session.members after.members ∧
        ∀ ids clock yaml calls, session = (new ids clock yaml).run calls →
          kept.fieldIds = form.fieldIds) ∧
    (∀ (session : Session) (call : SessionCall), call.takesSnapshot →
      let after := (session.perform call).session
      after.store.fields = session.store.fields ∧ after.store.selected = session.store.selected ∧
        after.store.preview = session.store.preview ∧
        (session.current ≠ none → after = session)) ∧
    ∀ (session : Session) (format : Value),
      (session.exportForm format).session.exportForm format = session.exportForm format := by
  refine ⟨?_, ?_, exportForm_exportForm⟩
  · intro session call form listsNone isCurrent after
    obtain ⟨current, isThere, rfl⟩ := Option.map_eq_some_iff.mp isCurrent
    obtain ⟨kept, isKept, stays⟩ := session.keepsForm_perform call listsNone current isThere
    have isCurrentAfter : after.currentForm? = some (kept.form after.store) :=
      Option.map_eq_some_iff.mpr ⟨kept, isKept, rfl⟩
    have members : List.Forall₂ (Member.Stays session.store) session.members after.members := by
      rw [Session.members, Session.members, isThere, isKept]
      exact stays.members
    refine ⟨_, isCurrentAfter, stays.header, members, fun ids clock yaml calls reached => ?_⟩
    have keeps : session.KeepsMembers := reached ▸ (keepsMembers_new ids clock yaml).run calls
    rw [(keeps.perform call).fieldIds isCurrentAfter, keeps.fieldIds isCurrent]
    exact Member.ids_of_stays members
  · intro session call takes after
    have sameIfCurrent (hasForm : session.current ≠ none) : after = session := by
      obtain ⟨current, isCurrent⟩ := Option.ne_none_iff_exists'.mp hasForm
      exact session_of_takesSnapshot_of_current takes isCurrent
    have turned : after = session ∨ after = session.ensureForm.2 := session_of_takesSnapshot takes
    obtain ⟨fields, selected, preview⟩ : after.store.fields = session.store.fields ∧
        after.store.selected = session.store.selected ∧
        after.store.preview = session.store.preview := by
      rcases turned with same | ensured
      · rw [same]
        exact ⟨rfl, rfl, rfl⟩
      · rw [ensured]
        exact session.store_ensureForm
    exact ⟨fields, selected, preview, sameIfCurrent⟩

/-- After a form with two fields is saved, the first of them is deleted and what is left is exported.
The form keeps both fields until it is saved again. -/
theorem only_saving_writes_draftCalls :
    let saved := (new (.counting "f") (.still .startOf2024) Yaml.library).run (draftCalls ++ [.save])
    let deleted := (saved.delete (.str "f2")).session
    ∃ form kept, saved.currentForm? = some form ∧ deleted.currentForm? = some kept ∧
      kept.toFormHeader = form.toFormHeader ∧ kept.fieldIds = ["f2", "f3"] ∧
      deleted.store.fieldIds = ["f3"] ∧
      (deleted.exportForm (.str "json")).result.isOk ∧
      (deleted.perform (.exportForm (.str "json"))).session = deleted := by
  intro saved deleted
  obtain ⟨others, snapshots, -⟩ := only_saving_writes
  obtain ⟨kept, isKept, header, -, ids⟩ := others saved (.delete (.str "f2")) _ rfl rfl
  obtain ⟨-, -, -, unchanged⟩ := snapshots deleted (.exportForm (.str "json")) rfl
  exact ⟨_, kept, rfl, isKept, header, ids _ _ _ _ rfl, rfl, by decide +kernel,
    unchanged nofun⟩

end Session

end FormEngine
