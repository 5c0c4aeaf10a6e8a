import FormEngine.Proofs.Session.Turn
import FormEngine.Session.Dialogue

/-!
# Feedback leaves no trace

Evaluating a form, looking at it and selecting fields changes nothing but the selection and the
messages of the preview, and no request is answered by these. So a session goes on in the same way
whether or not a host asks for feedback in between.
-/

namespace FormEngine

/-- Two results agree if they fail alike or succeed with values that agree. -/
inductive Result.Agree {ε α β : Type} (agree : α → β → Prop) : Except ε α → Except ε β → Prop
  | ok {value : α} {other : β} (values : agree value other) : Agree agree (.ok value) (.ok other)
  | error (fault : ε) : Agree agree (.error fault) (.error fault)

namespace Result.Agree

variable {ε α β γ δ : Type} {agree : α → β → Prop} {agreeNext : γ → δ → Prop}

/-- Sequences of steps agree if their first steps and what follows do. -/
theorem bind {first : Except ε α} {other : Except ε β} {rest : α → Except ε γ}
    {otherRest : β → Except ε δ} (firstAgree : Agree agree first other)
    (restAgree : ∀ value other, agree value other → Agree agreeNext (rest value) (otherRest other)) :
    Agree agreeNext (first >>= rest) (other >>= otherRest) := by
  cases firstAgree with
  | ok values => exact restAgree _ _ values
  | error fault => exact .error fault

/-- In particular if they share the first step. -/
theorem bind_same {rest : α → Except ε γ} {otherRest : α → Except ε δ} (first : Except ε α)
    (restAgree : ∀ value, Agree agreeNext (rest value) (otherRest value)) :
    Agree agreeNext (first >>= rest) (first >>= otherRest) := by
  cases first with
  | ok value => exact restAgree value
  | error fault => exact .error fault

end Result.Agree

/-- Two stores agree on the fields, the answers to them and the ids that are left. They may differ
in the selection and in the messages. -/
structure FieldStore.AgreesWith (store other : FieldStore) : Prop where
  fields : store.fields = other.fields
  answers : store.preview.answers = other.preview.answers
  ids : store.ids = other.ids

namespace FieldStore.AgreesWith

variable {store other : FieldStore}

theorem trans {third : FieldStore} (first : store.AgreesWith other)
    (second : other.AgreesWith third) : store.AgreesWith third :=
  ⟨first.fields.trans second.fields, first.answers.trans second.answers,
    first.ids.trans second.ids⟩

variable (agrees : store.AgreesWith other)
include agrees

/-- Fields are found by their ids alike. -/
theorem requireField (id : Value) : store.requireField id = other.requireField id := by
  simp only [FieldStore.requireField, FieldStore.field?, agrees.fields]

/-- The same field is added under the same id. -/
theorem add (type : Value) (attributes : Attributes) :
    (store.add type attributes).result = (other.add type attributes).result ∧
      (store.add type attributes).state.AgreesWith (other.add type attributes).state := by
  unfold FieldStore.add
  cases attributes.checkKnown >>= fun _ => FieldContent.create type attributes with
  | error fault => exact ⟨rfl, agrees⟩
  | ok content =>
    simp only [FieldStore.fieldIds, agrees.fields, agrees.ids]
    split
    · exact ⟨rfl, rfl, agrees.answers, rfl⟩
    · exact ⟨rfl, rfl, agrees.answers, rfl⟩

/-- The same field is changed. -/
theorem update (id : Value) (attributes : Attributes) :
    Result.Agree (fun changed changedToo => changed.1 = changedToo.1 ∧
        changed.2.AgreesWith changedToo.2)
      (store.update id attributes) (other.update id attributes) := by
  simp only [FieldStore.update, agrees.requireField, agrees.fields]
  refine .bind_same _ fun _ => .bind_same _ fun _ => .bind_same _ fun field =>
    .bind_same _ fun content => .ok ⟨rfl, rfl, agrees.answers, agrees.ids⟩

/-- The same field is deleted, with all that depends on it. -/
theorem delete (id : Value) :
    (store.delete id).result = (other.delete id).result ∧
      (store.delete id).state.AgreesWith (other.delete id).state := by
  have sameIndex : store.indexOf id = other.indexOf id := by
    simp only [FieldStore.indexOf, agrees.fields]
  unfold FieldStore.delete
  rw [sameIndex, agrees.fields]
  split
  · refine ⟨rfl, rfl, ?_, agrees.ids⟩
    simp only [Preview.forget, agrees.answers]
  · exact ⟨rfl, agrees⟩
  · exact ⟨rfl, agrees⟩

/-- The same field is moved to the same place. -/
theorem move (source target : Value) :
    Result.Agree AgreesWith (store.move source target) (other.move source target) := by
  simp only [FieldStore.move, agrees.fields]
  exact .bind_same _ fun _ => .bind_same _ fun _ => .ok ⟨rfl, agrees.answers, agrees.ids⟩

/-- The same fields come in place of the others. -/
theorem replace (fields : List Field) :
    Result.Agree AgreesWith (store.replace fields) (other.replace fields) := by
  unfold FieldStore.replace
  refine .bind_same _ fun sorted => ?_
  split
  · exact .error _
  · exact .ok ⟨rfl, rfl, agrees.ids⟩

/-- The same field is selected, or can not be. -/
theorem select (id : Value) :
    Result.Agree AgreesWith (store.select id) (other.select id) := by
  unfold FieldStore.select
  split
  · exact .ok ⟨agrees.fields, agrees.answers, agrees.ids⟩
  · rw [agrees.requireField]
    exact .bind_same _ fun field => .ok ⟨agrees.fields, agrees.answers, agrees.ids⟩

end FieldStore.AgreesWith

/-- Two sessions agree on the current form and on all that is edited, what is left to them of ids and
times is the same, and so is their library for YAML. They may differ in the selection and in the
messages of the preview. -/
structure Session.AgreesWith (session other : Session) : Prop where
  store : session.store.AgreesWith other.store
  current : session.current = other.current
  clock : session.clock = other.clock
  yaml : session.yaml = other.yaml

/-- Two steps agree if the same is heard of them and the sessions after them agree. -/
structure Step.AgreesWith {α : Type} (step other : Step α) : Prop where
  result : step.result = other.result
  notices : step.notices = other.notices
  warnings : step.warnings = other.warnings
  session : step.session.AgreesWith other.session

namespace Step.AgreesWith

variable {α : Type} {step other : Step α}

/-- Steps that agree do so with what they give made into a reply. -/
theorem replying (agrees : step.AgreesWith other) (reply : α → Reply) :
    (step.replying reply).AgreesWith (other.replying reply) where
  result := congrArg (Except.map reply) agrees.result
  notices := agrees.notices
  warnings := agrees.warnings
  session := agrees.session

/-- The same is heard of steps that agree. -/
theorem response {step other : Step Reply} (agrees : step.AgreesWith other) :
    step.response = other.response := by
  simp only [Step.response, agrees.result, agrees.notices, agrees.warnings]

end Step.AgreesWith

namespace Session.AgreesWith

variable {session other : Session}

theorem refl (session : Session) : session.AgreesWith session := ⟨⟨rfl, rfl, rfl⟩, rfl, rfl, rfl⟩

theorem trans {third : Session} (first : session.AgreesWith other)
    (second : other.AgreesWith third) : session.AgreesWith third :=
  ⟨first.store.trans second.store, first.current.trans second.current,
    first.clock.trans second.clock, first.yaml.trans second.yaml⟩

variable (agrees : session.AgreesWith other)
include agrees

/-- Steps that change nothing and give the same agree. -/
theorem unchanged {α : Type} (result : Except Fault α) :
    (session.unchanged result).AgreesWith (other.unchanged result) :=
  ⟨rfl, rfl, rfl, agrees⟩

/-- Steps that either succeed or change nothing agree if their results do. -/
theorem stepOf {α : Type} {result otherResult : Except Fault (α × Session)}
    (results : Result.Agree (fun given givenToo => given.1 = givenToo.1 ∧
      given.2.AgreesWith givenToo.2) result otherResult) :
    (session.stepOf result).AgreesWith (other.stepOf otherResult) := by
  cases results with
  | ok values => exact ⟨congrArg Except.ok values.1, rfl, rfl, values.2⟩
  | error fault => exact agrees.unchanged _

/-- Sessions that agree do so with stores that agree. -/
theorem withStore {store otherStore : FieldStore} (stores : store.AgreesWith otherStore) :
    (session.withStore store).AgreesWith (other.withStore otherStore) :=
  ⟨stores, agrees.current, agrees.clock, agrees.yaml⟩

/-- Steps that work on the store and give nothing agree if what becomes of the stores does. -/
theorem stepOf_store {result otherResult : Except Fault FieldStore}
    (stores : Result.Agree FieldStore.AgreesWith result otherResult) :
    (session.stepOf (do return ((), session.withStore (← result)))).AgreesWith
      (other.stepOf (do return ((), other.withStore (← otherResult)))) :=
  agrees.stepOf (stores.bind fun _ _ same => .ok ⟨rfl, agrees.withStore same⟩)

/-- Ids and times come from the same supply. -/
theorem supply : session.supply = other.supply := by
  simp only [Session.supply, agrees.store.ids, agrees.clock]

/-- Sessions that agree do so after the same ids and times were used up. -/
theorem withSupply (supply : Supply) :
    (session.withSupply supply).AgreesWith (other.withSupply supply) :=
  ⟨⟨agrees.store.fields, agrees.store.answers, rfl⟩, agrees.current, rfl, agrees.yaml⟩

/-- A form has the same fields in both. -/
theorem form (current : CurrentForm) : current.form session.store = current.form other.store := by
  have sameField : Member.field? session.store = Member.field? other.store := by
    funext member
    cases member <;> simp only [Member.field?, agrees.store.fields]
  simp only [CurrentForm.form, sameField]

/-- They have the same current form. -/
theorem currentForm? : session.currentForm? = other.currentForm? := by
  simp only [Session.currentForm?, agrees.current, agrees.form]

/-- They have the same header for a new form. -/
theorem newHeader (title description : Value) :
    (session.newHeader title description).1 = (other.newHeader title description).1 ∧
      (session.newHeader title description).2.AgreesWith (other.newHeader title description).2 := by
  simp only [Session.newHeader, agrees.supply]
  exact ⟨trivial, agrees.withSupply _⟩

/-- They start the same form. -/
theorem create (title description : Value) :
    (session.create title description).AgreesWith (other.create title description) := by
  obtain ⟨sameHeader, after⟩ := agrees.newHeader title description
  simp only [Session.create, sameHeader, after.store.ids]
  exact ⟨rfl, rfl, rfl, ⟨rfl, rfl, rfl⟩, rfl, after.clock, after.yaml⟩

/-- They load the same form. -/
theorem loadForm (form : Form) :
    Result.Agree (fun loaded loadedToo => loaded.1 = loadedToo.1 ∧ loaded.2.AgreesWith loadedToo.2)
      (session.loadForm form) (other.loadForm form) := by
  refine (agrees.store.replace form.fields).bind fun store otherStore stores => .ok ?_
  have after : ({ session with store } : Session).AgreesWith { other with store := otherStore } :=
    ⟨stores, agrees.current, agrees.clock, agrees.yaml⟩
  have sameMembers : membersOf store = membersOf otherStore := by
    simp only [membersOf, stores.fields]
  exact ⟨by rw [sameMembers]; exact after.form _, stores, by rw [sameMembers], agrees.clock,
    agrees.yaml⟩

/-- They save the same form. -/
theorem save : session.save.AgreesWith other.save := by
  unfold Session.save
  rw [agrees.current]
  split
  · exact agrees.unchanged _
  · have sameMembers : membersOf session.store = membersOf other.store := by
      simp only [membersOf, agrees.store.fields]
    rw [agrees.clock, sameMembers]
    exact ⟨by simp only [agrees.form], rfl, rfl, agrees.store, rfl, rfl, agrees.yaml⟩

/-- They make sure of the same form. -/
theorem ensureForm :
    session.ensureForm.1 = other.ensureForm.1 ∧
      session.ensureForm.2.AgreesWith other.ensureForm.2 := by
  unfold Session.ensureForm
  rw [agrees.current]
  split
  · exact ⟨rfl, agrees⟩
  · obtain ⟨sameHeader, after⟩ := agrees.newHeader (.str defaultTitle) (.str "")
    simp only [sameHeader]
    exact ⟨trivial, after.store, rfl, after.clock, after.yaml⟩

/-- They take the same snapshot. -/
theorem snapshot : session.snapshot.AgreesWith other.snapshot := by
  obtain ⟨sameForm, after⟩ := agrees.ensureForm
  simp only [Session.snapshot, sameForm, after.store.fields]
  exact ⟨rfl, rfl, rfl, after⟩

/-- They export the same text. -/
theorem exportForm (format : Value) :
    (session.exportForm format).AgreesWith (other.exportForm format) := by
  unfold Session.exportForm
  split
  · exact agrees.unchanged _
  · have taken := agrees.snapshot
    exact ⟨by simp only [taken.result, agrees.yaml], rfl, rfl, taken.session⟩

/-- They import the same form. -/
theorem importText (text format : Value) (strict : Bool) :
    (session.importText text format strict).AgreesWith (other.importText text format strict) := by
  unfold Session.importText
  split
  · exact agrees.unchanged _
  · next format _ =>
    rw [agrees.supply, agrees.yaml]
    let reading := FormEngine.importForm format other.yaml strict other.supply text
    have supplied := agrees.withSupply reading.supply
    have loaded := supplied.stepOf (.bind_same reading.result supplied.loadForm)
    exact ⟨loaded.result, by simp only [Session.withSupply, agrees.yaml], rfl, loaded.session⟩

/-- They delete the same field, and keep it with the form alike. -/
theorem delete (id : Value) : (session.delete id).AgreesWith (other.delete id) := by
  have sameDetach : Member.detachId session.store = Member.detachId other.store := by
    funext id member
    cases member <;> simp only [Member.detachId, Member.detach, agrees.store.fields]
  obtain ⟨sameResult, after⟩ := agrees.store.delete id
  unfold Session.delete
  rw [agrees.store.requireField]
  split
  · exact agrees.unchanged _
  · simp only [sameResult, sameDetach, agrees.current]
    exact ⟨rfl, rfl, rfl, after, rfl, agrees.clock, agrees.yaml⟩

/-- They replace the fields by the same, and keep the members of the form alike. -/
theorem replaceFields (fields : List Field) :
    (session.replaceFields fields).AgreesWith (other.replaceFields fields) := by
  have sameDetach : Member.detach session.store = Member.detach other.store := by
    funext member
    cases member <;> simp only [Member.detach, agrees.store.fields]
  refine agrees.stepOf ((agrees.store.replace fields).bind fun _ _ stores => .ok ?_)
  simp only [sameDetach, agrees.current]
  exact ⟨trivial, stores, rfl, agrees.clock, agrees.yaml⟩

/-- They evaluate the same fields with the same answers. -/
theorem evaluate : session.evaluate.AgreesWith other.evaluate := by
  have evaluated (result : Except Fault Evaluation) :
      (session.stepOf do
        let evaluation ← result
        return (evaluation, session.withPreview
          { session.store.preview with errors := evaluation.errors })).AgreesWith
      (other.stepOf do
        let evaluation ← result
        return (evaluation, other.withPreview
          { other.store.preview with errors := evaluation.errors })) :=
    agrees.stepOf (.bind_same result fun _ => .ok ⟨rfl, agrees.withStore
      ⟨agrees.store.fields, agrees.store.answers, agrees.store.ids⟩⟩)
  have step := evaluated (FormEngine.evaluate session.store.fields session.store.preview.answers)
  simp only [Session.evaluate, agrees.store.fields, agrees.store.answers] at step ⊢
  exact ⟨step.result, rfl, step.warnings, step.session⟩

/-- They answer every call alike. -/
theorem answerCall (call : SessionCall) :
    (session.answerCall call).AgreesWith (other.answerCall call) := by
  cases call with
  | create title description => exact (agrees.create title description).replying _
  | load form => exact (agrees.stepOf (agrees.loadForm form)).replying _
  | save => exact agrees.save.replying _
  | snapshot => exact agrees.snapshot.replying _
  | exportForm format => exact (agrees.exportForm format).replying _
  | importText text format strict => exact (agrees.importText text format strict).replying _
  | add type attributes =>
    obtain ⟨sameResult, after⟩ := agrees.store.add type attributes
    have added : (session.add type attributes).AgreesWith (other.add type attributes) :=
      ⟨sameResult, rfl, rfl, agrees.withStore after⟩
    exact added.replying _
  | update id attributes =>
    refine (agrees.stepOf ((agrees.store.update id attributes).bind ?_)).replying _
    exact fun _ _ changed => .ok ⟨changed.1, agrees.withStore changed.2⟩
  | delete id => exact (agrees.delete id).replying _
  | move source target => exact (agrees.stepOf_store (agrees.store.move source target)).replying _
  | select id => exact (agrees.stepOf_store (agrees.store.select id)).replying _
  | replaceFields fields => exact (agrees.replaceFields fields).replying _
  | answer id value =>
    refine (agrees.stepOf ?_).replying _
    rw [agrees.store.requireField]
    refine .bind_same _ fun field => .ok ⟨rfl, agrees.withStore ⟨agrees.store.fields, ?_,
      agrees.store.ids⟩⟩
    simp only [Preview.answer, agrees.store.answers]
  | evaluate | submit => exact agrees.evaluate.replying _
  | usePreview preview => exact ⟨rfl, rfl, rfl, agrees.withStore ⟨agrees.store.fields, rfl,
      agrees.store.ids⟩⟩

/-- They answer every request alike, and agree after it. -/
theorem respond (request : Request) :
    (session.respond request).AgreesWith (other.respond request) := by
  cases request with
  | call call => exact agrees.answerCall call
  | visibleFields =>
    simp only [Session.respond, Session.visibleFields, agrees.store.fields, agrees.store.answers]
    exact agrees.unchanged _
  | initialAnswers =>
    simp only [Session.respond, Session.initialAnswers, agrees.store.fields]
    exact agrees.unchanged _

end Session.AgreesWith

namespace Session

/-- Responding to a call is performing it. -/
theorem plain_answerCall (session : Session) (call : SessionCall) :
    (session.answerCall call).plain = session.perform call := by
  have plain_replying {α : Type} (step : Step α) (reply : α → Reply) :
      (step.replying reply).plain = step.plain := by
    cases given : step.result <;> simp only [Step.replying, Step.plain, given, Except.map]
  have plain_self (step : Step Unit) : step.plain = step := by
    cases given : step.result <;> simp only [Step.plain, given, Except.map] <;> simp [← given]
  cases call <;> simp only [answerCall, perform, plain_replying, plain_self]
  rfl

/-- Following calls is running them. -/
theorem follow_call (session : Session) (calls : List SessionCall) :
    session.follow (calls.map .call) = session.run calls := by
  rw [follow, List.foldl_map, run]
  refine congrArg (fun step => List.foldl step session calls) (funext₂ fun session call => ?_)
  exact congrArg Step.session (session.plain_answerCall call)

/-- A request for feedback, whether it succeeds or fails, leaves a session that agrees with the one
before. -/
theorem agreesWith_feedback (session : Session) (feedback : Feedback) :
    (session.respond feedback.request).session.AgreesWith session := by
  have unchanged : session.AgreesWith session := .refl session
  cases feedback with
  | evaluate | submit =>
    have evaluated : session.evaluate.session.AgreesWith session :=
      of_stepOf_return (AgreesWith · session) unchanged fun _ _ =>
        ⟨⟨rfl, rfl, rfl⟩, rfl, rfl, rfl⟩
    exact evaluated
  | visibleFields | initialAnswers => exact unchanged
  | select id =>
    have selected : (session.select id).session.AgreesWith session := by
      refine of_stepOf_return (AgreesWith · session) unchanged fun store done => ?_
      obtain ⟨selection, -, rfl⟩ := FieldStore.select_eq_ok done
      exact ⟨⟨rfl, rfl, rfl⟩, rfl, rfl, rfl⟩
    exact selected

/-- Of two sessions that agree, one hears feedback in between. Both give the same responses to the
work and agree at its end. -/
theorem AgreesWith.follow {session other : Session} (agrees : session.AgreesWith other)
    (script : Script) :
    script.responsesToWork (session.responses script.requests) = other.responses script.work ∧
      (session.follow script.requests).AgreesWith (other.follow script.work) := by
  induction script generalizing session other with
  | nil => exact ⟨rfl, agrees⟩
  | cons source rest inductionHypothesis =>
    cases source with
    | inl feedback =>
      exact inductionHypothesis ((session.agreesWith_feedback feedback).trans agrees)
    | inr request =>
      have step := agrees.respond request
      obtain ⟨sameResponses, later⟩ := inductionHypothesis step.session
      exact ⟨congrArg₂ List.cons step.response sameResponses, later⟩

/-- Asking for feedback leaves no trace: a session that is asked for it in between, at any places and
any number of times, gives every request of the work the response that it gives without, fails where
it fails without, and ends with the same fields, the same current form and the same answers, having
used up the same ids and times. So at the end it submits the same. -/
theorem feedback_leaves_no_trace (session : Session) (script : Script) :
    let observed := session.follow script.requests
    let unobserved := session.follow script.work
    script.responsesToWork (session.responses script.requests) = session.responses script.work ∧
      observed.store.fields = unobserved.store.fields ∧
      observed.current = unobserved.current ∧
      observed.currentForm? = unobserved.currentForm? ∧
      observed.store.preview.answers = unobserved.store.preview.answers ∧
      observed.supply = unobserved.supply ∧
      (observed.respond (.call .submit)).response = (unobserved.respond (.call .submit)).response := by
  intro observed unobserved
  obtain ⟨sameResponses, agree⟩ := (AgreesWith.refl session).follow script
  exact ⟨sameResponses, agree.store.fields, agree.current, agree.currentForm?, agree.store.answers,
    agree.supply, (agree.respond _).response⟩

end Session

end FormEngine
