import FormEngine.Proofs.Evaluation
import FormEngine.Proofs.Session.Failure
import FormEngine.Proofs.Store.Preview
import FormEngine.Yaml.Library

/-!
# What a session has in its preview

As long as a host leaves the preview to the session, the session keeps nothing in it but answers
and messages of fields that are there, whichever calls are made and whichever of them fail.
-/

namespace FormEngine

/-- A call that leaves the preview to the session. -/
def SessionCall.LeavesPreview (call : SessionCall) : Prop :=
  ∀ preview, call ≠ .usePreview preview

namespace Session

/-- The preview holds nothing but what is about fields of the session. -/
def PreviewsOwn (session : Session) : Prop :=
  session.store.PreviewsOwn

variable {session : Session}

/-- An import leaves nothing of earlier fields, and does not touch the preview where it fails. -/
theorem PreviewsOwn.importText (own : session.PreviewsOwn) (text format : Value) (strict : Bool) :
    (session.importText text format strict).session.PreviewsOwn := by
  unfold Session.importText
  split
  · exact own
  · refine of_stepOf PreviewsOwn own fun loaded after done => ?_
    obtain ⟨form, -, isLoaded⟩ := Result.bind_eq_ok_iff.mp done
    obtain ⟨store, replaced, rfl⟩ := exists_store_of_loadForm isLoaded
    exact FieldStore.previewsOwn_of_replace replaced

/-- A call that leaves the preview to the session leaves nothing in it of fields that are gone. -/
theorem PreviewsOwn.perform (own : session.PreviewsOwn) {call : SessionCall}
    (leaves : call.LeavesPreview) : (session.perform call).session.PreviewsOwn := by
  cases call with
  | create title description => exact Preview.isAbout_empty _
  | load form =>
    refine of_stepOf PreviewsOwn own fun loaded after done => ?_
    obtain ⟨store, replaced, rfl⟩ := exists_store_of_loadForm done
    exact FieldStore.previewsOwn_of_replace replaced
  | save =>
    simp only [Session.perform, Session.save, Step.plain]
    split <;> exact own
  | snapshot =>
    simp only [Session.perform, Session.snapshot, Session.ensureForm, Step.plain]
    split <;> exact own
  | exportForm format =>
    simp only [Session.perform, Session.exportForm, Session.snapshot, Session.ensureForm, Step.plain]
    split
    · exact own
    · split <;> exact own
  | importText text format strict => exact own.importText text format strict
  | add type attributes => exact FieldStore.PreviewsOwn.add own type attributes
  | update id attributes =>
    exact of_update PreviewsOwn own fun _ _ updated => FieldStore.PreviewsOwn.update own updated
  | delete id =>
    simp only [Session.perform, Session.delete]
    split
    · exact own
    · exact FieldStore.PreviewsOwn.delete own id
  | move source target =>
    exact of_stepOf_return PreviewsOwn own fun _ moved => FieldStore.PreviewsOwn.move own moved
  | select id =>
    exact of_stepOf_return PreviewsOwn own fun _ selected =>
      FieldStore.PreviewsOwn.select own selected
  | replaceFields fields =>
    exact of_stepOf_return PreviewsOwn own fun _ replaced =>
      FieldStore.previewsOwn_of_replace replaced
  | answer id value =>
    exact of_stepOf_return PreviewsOwn own fun _ found =>
      FieldStore.PreviewsOwn.answer own (FieldStore.requireField_mem found) value
  | evaluate | submit =>
    exact of_stepOf_return PreviewsOwn own fun _ evaluated =>
      ⟨own.answers, keys_errors_subset evaluated⟩
  | usePreview preview => exact absurd rfl (leaves preview)

/-- A run of such calls leaves nothing in the preview of fields that are gone. -/
theorem PreviewsOwn.run (own : session.PreviewsOwn) {calls : List SessionCall}
    (leave : ∀ call ∈ calls, call.LeavesPreview) : (session.run calls).PreviewsOwn := by
  induction calls generalizing session with
  | nil => exact own
  | cons call rest inductionHypothesis =>
    obtain ⟨first, later⟩ := List.forall_mem_cons.mp leave
    exact inductionHypothesis (own.perform first) later

/-- However a session is driven, as long as its preview is changed by the session only, every answer
and every message in it is that of a field which the store has, whether the calls succeed or
fail. -/
theorem preview_is_of_stored_fields (ids : IdSource) (clock : Clock) (yaml : YamlLibrary)
    (calls : List SessionCall) (leave : ∀ call ∈ calls, call.LeavesPreview) :
    let store := ((new ids clock yaml).run calls).store
    (∀ id ∈ store.preview.answers.keys, ∃ field ∈ store.fields, field.id = id) ∧
      ∀ id ∈ store.preview.errors.keys, ∃ field ∈ store.fields, field.id = id := by
  intro store
  have fresh : (new ids clock yaml).PreviewsOwn := Preview.isAbout_empty _
  have own : store.PreviewsOwn := fresh.run leave
  exact ⟨fun id isKey => List.mem_map.mp (own.answers isKey),
    fun id isKey => List.mem_map.mp (own.errors isKey)⟩

/-- Two required fields are answered, one with nothing and one in a wrong way, and evaluated; the
first one is deleted, and deleted once more. -/
def forgetfulCalls : List SessionCall :=
  [.add (.str "text") [.required (.bool true)], .add (.str "number") [.required (.bool true)],
    .answer (.str "f1") (.str ""), .answer (.str "f2") (.str "many"), .evaluate,
    .delete (.str "f1"), .delete (.str "f1")]

/-- Nothing is left of the deleted field. -/
theorem preview_is_of_stored_fields_forgetfulCalls :
    let store := ((new (.counting "f") (.still .startOf2024) Yaml.library).run forgetfulCalls).store
    (∀ call ∈ forgetfulCalls, call.LeavesPreview) ∧ store.preview.answers.keys = ["f2"] ∧
      store.preview.errors.keys = ["f2"] ∧ ∃ field ∈ store.fields, field.id = "f2" := by
  intro store
  have leave : ∀ call ∈ forgetfulCalls, call.LeavesPreview := by
    simp [forgetfulCalls, SessionCall.LeavesPreview]
  have answered : store.preview.answers.keys = ["f2"] := rfl
  have rejected : store.preview.errors.keys = ["f2"] := rfl
  obtain ⟨ofFields, -⟩ :=
    preview_is_of_stored_fields (.counting "f") (.still .startOf2024) Yaml.library forgetfulCalls leave
  exact ⟨leave, answered, rejected, ofFields "f2" (by rw [answered]; exact .head _)⟩

end Session

end FormEngine
