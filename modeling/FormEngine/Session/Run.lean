import FormEngine.Session.Basic
import FormEngine.Store.Run

/-!
# Runs of a session

A host drives a session by calls, as it does with a store alone. What a call refuses, the host may
try again in another way, so a run goes on from whatever session the call left.
-/

namespace FormEngine

/-- A call of an operation of a session, with its arguments. -/
inductive SessionCall where
  | create (title description : Value)
  | load (form : Form)
  | save
  | snapshot
  | exportForm (format : Value)
  | importText (text format : Value) (strict : Bool)
  | add (type : Value) (attributes : Attributes)
  | update (id : Value) (attributes : Attributes)
  | delete (id : Value)
  | move (source target : Value)
  | select (id : Value)
  | replaceFields (fields : List Field)
  | answer (id value : Value)
  | evaluate
  | submit
  /-- The preview is in the hands of the host, which may put any other in its place. -/
  | usePreview (preview : Preview)

/-- The fields that a call hands over. A document that is imported is none yet. -/
def SessionCall.given : SessionCall → List Field
  | .load form => form.fields
  | .replaceFields fields => fields
  | _ => []

/-- A step without what it gives. -/
def Step.plain {α : Type} (step : Step α) : Step Unit :=
  { step with result := step.result.map fun _ => () }

namespace Session

/-- The step of a call. -/
def perform (session : Session) : SessionCall → Step Unit
  | .create title description => (session.create title description).plain
  | .load form => (session.load form).plain
  | .save => session.save.plain
  | .snapshot => session.snapshot.plain
  | .exportForm format => (session.exportForm format).plain
  | .importText text format strict => (session.importText text format strict).plain
  | .add type attributes => (session.add type attributes).plain
  | .update id attributes => (session.update id attributes).plain
  | .delete id => session.delete id
  | .move source target => session.move source target
  | .select id => session.select id
  | .replaceFields fields => session.replaceFields fields
  | .answer id value => session.answer id value
  | .evaluate => session.evaluate.plain
  | .submit => session.submit.plain
  | .usePreview preview => { result := .ok (), session := session.withPreview preview }

/-- The session after calls, whether these succeed or fail. -/
def run (session : Session) (calls : List SessionCall) : Session :=
  calls.foldl (fun session call => (session.perform call).session) session

end Session

end FormEngine
