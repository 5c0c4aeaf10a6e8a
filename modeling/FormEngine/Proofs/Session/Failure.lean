import FormEngine.Proofs.Store.Failure
import FormEngine.Session.Run
import FormEngine.Yaml.Library

/-!
# Failing steps of a session

A call that a session refuses leaves the work in it as it was: the form with its members, the
fields, the selection and the preview. It may have used up ids and times. Exports are left aside,
since an export that fails may have made the form that it could not write; and deleting may stop
half-way where a field has something among its conditions that is none.
-/

namespace FormEngine

namespace Session

/-- Two sessions hold the same work. The ids and times that are left to them may differ. -/
structure SameWork (before after : Session) : Prop where
  current : after.current = before.current
  fields : after.store.fields = before.store.fields
  selected : after.store.selected = before.store.selected
  preview : after.store.preview = before.store.preview

theorem SameWork.refl (session : Session) : SameWork session session := ⟨rfl, rfl, rfl, rfl⟩

/-- The same work makes the same form, with the same fields. -/
theorem SameWork.currentForm? {before after : Session} (same : SameWork before after) :
    after.currentForm? = before.currentForm? := by
  have field (member : Member) : member.field? after.store = member.field? before.store := by
    cases member <;> simp [Member.field?, same.fields]
  have form (current : CurrentForm) : current.form after.store = current.form before.store := by
    simp [CurrentForm.form, funext field]
  simp [Session.currentForm?, same.current, funext form]

/-- A snapshot is taken with the library that the session has. -/
@[simp]
theorem yaml_snapshot (session : Session) :
    session.snapshot.session.yaml = session.yaml := by
  unfold snapshot ensureForm
  cases session.current <;> rfl

/-- A step that either succeeds or changes nothing changes nothing when it fails. -/
theorem session_stepOf {α : Type} {session : Session} {result : Except Fault (α × Session)}
    {fault : Fault} (failed : (session.stepOf result).result = .error fault) :
    (session.stepOf result).session = session := by
  cases result with
  | error other => rfl
  | ok pair => cases failed

/-- A step that succeeds gives what its result holds. -/
theorem stepOf_eq_ok {α : Type} {session : Session} {result : Except Fault (α × Session)} {value : α}
    (done : (session.stepOf result).result = .ok value) :
    result = .ok (value, (session.stepOf result).session) := by
  cases result with
  | error fault => cases done
  | ok pair =>
    obtain rfl := Except.ok.inj done
    rfl

/-- What holds of a session holds after a step that either succeeds or changes nothing, if it holds
where the step succeeds. -/
theorem of_stepOf (holds : Session → Prop) {α : Type} {session : Session}
    {result : Except Fault (α × Session)} (before : holds session)
    (whenDone : ∀ value after, result = .ok (value, after) → holds after) :
    holds (session.stepOf result).session := by
  cases result with
  | error fault => exact before
  | ok pair => exact whenDone pair.1 pair.2 rfl

/-- In most steps the session is made of one result, such as another store. -/
theorem of_stepOf_return (holds : Session → Prop) {α β : Type} {session : Session}
    {result : Except Fault β} {next : β → α × Session} (before : holds session)
    (whenDone : ∀ value, result = .ok value → holds (next value).2) :
    holds (session.stepOf (do return next (← result))).session := by
  refine of_stepOf holds before fun _ after done => ?_
  obtain ⟨value, isValue, same⟩ := Result.bind_eq_ok_iff.mp done
  have sameSession : (next value).2 = after := congrArg Prod.snd (Except.ok.inj same)
  exact sameSession ▸ whenDone value isValue

/-- What holds of a session holds after a field was changed, if it holds with the store in which it
is changed. -/
theorem of_update (holds : Session → Prop) {session : Session} {id : Value} {attributes : Attributes}
    (before : holds session)
    (whenDone : ∀ field store, session.store.update id attributes = .ok (field, store) →
      holds (session.withStore store)) :
    holds (session.update id attributes).session := by
  refine of_stepOf holds before fun _ after done => ?_
  obtain ⟨⟨field, store⟩, updated, same⟩ := Result.bind_eq_ok_iff.mp done
  obtain ⟨-, rfl⟩ := Prod.mk.inj (Except.ok.inj same)
  exact whenDone field store updated

/-- A form that is loaded replaces the fields of the store, and has those that it has then. -/
theorem exists_store_of_loadForm {session after : Session} {form loaded : Form}
    (done : session.loadForm form = .ok (loaded, after)) :
    ∃ store, session.store.replace form.fields = .ok store ∧
      after = { session with
        store
        current := some { header := form.toFormHeader, members := membersOf store } } := by
  obtain ⟨store, replaced, same⟩ := Result.bind_eq_ok_iff.mp done
  obtain ⟨-, rfl⟩ := Prod.mk.inj (Except.ok.inj same)
  exact ⟨store, replaced, rfl⟩

/-- A deletion that fails changes nothing, if all conditions are conditions. -/
theorem session_delete {session : Session} {id : Value} {fault : Fault}
    (proper : ∀ field ∈ session.store.fields, field.HasProperConditions)
    (failed : (session.delete id).result = .error fault) : (session.delete id).session = session := by
  unfold Session.delete at failed ⊢
  split
  · rfl
  · next field found =>
    obtain ⟨count, deleted⟩ := FieldStore.exists_delete proper found
    rw [found] at failed
    simp [deleted, Except.map] at failed

/-- An import that fails leaves the work as it was. -/
theorem sameWork_importText {session : Session} {text format : Value} {strict : Bool} {fault : Fault}
    (failed : (session.importText text format strict).result = .error fault) :
    SameWork session (session.importText text format strict).session := by
  unfold Session.importText at failed ⊢
  split
  · exact .refl session
  · next format isFormat =>
    rw [isFormat] at failed
    simp only at failed ⊢
    rw [session_stepOf failed]
    exact ⟨rfl, rfl, rfl, rfl⟩

/-- An addition that fails leaves the work as it was. -/
theorem sameWork_add {session : Session} {type : Value} {attributes : Attributes} {fault : Fault}
    (failed : (session.add type attributes).result = .error fault) :
    SameWork session (session.add type attributes).session := by
  obtain ⟨ids, after⟩ := FieldStore.add_eq_error failed
  simp only [Session.add, after]
  exact ⟨rfl, rfl, rfl, rfl⟩

/-- A call that fails, other than an export, leaves the form of a session and all of its fields, the
fields that are edited, the selection and the preview as they were, if all conditions of the fields
that are edited are conditions. -/
theorem perform_failed {session : Session} {call : SessionCall} {fault : Fault}
    (proper : ∀ field ∈ session.store.fields, field.HasProperConditions)
    (noExport : ∀ format, call ≠ .exportForm format)
    (failed : (session.perform call).result = .error fault) :
    SameWork session (session.perform call).session ∧
      (session.perform call).session.currentForm? = session.currentForm? := by
  have same : SameWork session (session.perform call).session := by
    have unchanged {after : Session} (equal : after = session) : SameWork session after :=
      equal ▸ .refl session
    cases call with
    | create title description => cases failed
    | load form => exact unchanged (session_stepOf (Result.map_eq_error_iff.mp failed))
    | save =>
      simp only [Session.perform, Session.save, Step.plain] at failed
      split at failed <;> cases failed
    | snapshot => cases failed
    | exportForm format => exact absurd rfl (noExport format)
    | importText text format strict =>
      exact sameWork_importText (Result.map_eq_error_iff.mp failed)
    | add type attributes => exact sameWork_add (Result.map_eq_error_iff.mp failed)
    | update id attributes => exact unchanged (session_stepOf (Result.map_eq_error_iff.mp failed))
    | delete id => exact unchanged (session_delete proper failed)
    | move source target => exact unchanged (session_stepOf failed)
    | select id => exact unchanged (session_stepOf failed)
    | replaceFields fields => exact unchanged (session_stepOf failed)
    | answer id value => exact unchanged (session_stepOf failed)
    | evaluate => exact unchanged (session_stepOf (Result.map_eq_error_iff.mp failed))
    | submit => exact unchanged (session_stepOf (Result.map_eq_error_iff.mp failed))
    | usePreview preview => cases failed
  exact ⟨same, same.currentForm?⟩

/-- A session with a saved form, in which the second of two fields waits for an answer to the
first, and the first has an answer. -/
def visit : Session :=
  (new (.counting "f") (.still .startOf2024) Yaml.library).run
    [.create (.str "Visit") (.str ""),
      .add (.str "text") [.label (.str "Name")],
      .add (.str "date") [.conditionalRules (.entries
        [.proper { trigger := .str "f2", operator := .known .notEmpty }])],
      .save,
      .answer (.str "f2") (.str "Ann")]

/-- A form with a field that claims no place. -/
def misplaced : Form where
  id := "misplaced"
  fields := [
    { id := "name", type := .text, label := .str "Name" },
    { id := "age", type := .number, label := .str "Age", order := .null }]

/-- The session stays as it was when it refuses the fields of a form that can not be sorted. -/
theorem perform_failed_misplaced :
    (∀ field ∈ visit.store.fields, field.HasProperConditions) ∧
      (visit.perform (.load misplaced)).result =
        .error (Value.unordered .null (.int 0)) ∧
      SameWork visit (visit.perform (.load misplaced)).session ∧
      (visit.perform (.load misplaced)).session.currentForm? = visit.currentForm? := by
  have conditions : visit.store.fields.map (·.conditionalRules) =
      [[], [.proper { trigger := .str "f2", operator := .known .notEmpty }]] := rfl
  have proper : ∀ field ∈ visit.store.fields, field.HasProperConditions := by
    intro field member entry isEntry
    have among := List.mem_map_of_mem (f := (·.conditionalRules)) member
    simp only [conditions, List.mem_cons, List.not_mem_nil, or_false] at among
    rcases among with none | one
    · simp [none] at isEntry
    · exact ⟨_, List.mem_singleton.mp (one ▸ isEntry)⟩
  have failed : (visit.perform (.load misplaced)).result =
      .error (Value.unordered .null (.int 0)) := rfl
  have noExport : ∀ format, SessionCall.load misplaced ≠ .exportForm format := by
    intro format same
    cases same
  exact ⟨proper, failed, perform_failed proper noExport failed⟩

end Session

end FormEngine
