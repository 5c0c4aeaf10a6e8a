import FormEngine.Session.Run

/-!
# What a host hears of a session

A host makes requests and gets a response to each. Most requests are calls; the others look at
something that the session works out without changing. A host that gives live feedback evaluates
the form, looks at what is visible and selects fields while the work goes on, so its requests are
those of the work with feedback in between.
-/

namespace FormEngine

/-- A request of a host. -/
inductive Request where
  | call (call : SessionCall)
  | visibleFields
  | initialAnswers

/-- What a request gives if it succeeds. -/
inductive Reply where
  | done
  | form (form : Form)
  /-- The form that was saved, if there is one. -/
  | saved (form : Option Form)
  | text (text : String)
  | field (field : Field)
  | evaluation (evaluation : Evaluation)
  | fields (fields : List Field)
  | answers (answers : Answers)

/-- All that a host hears of a request. -/
structure Response where
  result : Except Fault Reply
  notices : List Notice
  warnings : List PatternWarning

namespace Step

/-- A step with what it gives made into a reply. -/
def replying {α : Type} (step : Step α) (reply : α → Reply) : Step Reply :=
  { step with result := step.result.map reply }

/-- What is heard of a step. -/
def response (step : Step Reply) : Response where
  result := step.result
  notices := step.notices
  warnings := step.warnings

end Step

namespace Session

/-- The step of a call, with what it gives. -/
def answerCall (session : Session) : SessionCall → Step Reply
  | .create title description => (session.create title description).replying .form
  | .load form => (session.load form).replying .form
  | .save => session.save.replying .saved
  | .snapshot => session.snapshot.replying .form
  | .exportForm format => (session.exportForm format).replying .text
  | .importText text format strict => (session.importText text format strict).replying .form
  | .add type attributes => (session.add type attributes).replying .field
  | .update id attributes => (session.update id attributes).replying .field
  | .delete id => (session.delete id).replying fun _ => .done
  | .move source target => (session.move source target).replying fun _ => .done
  | .select id => (session.select id).replying fun _ => .done
  | .replaceFields fields => (session.replaceFields fields).replying fun _ => .done
  | .answer id value => (session.answer id value).replying fun _ => .done
  | .evaluate => session.evaluate.replying .evaluation
  | .submit => session.submit.replying .evaluation
  | .usePreview preview => { result := .ok .done, session := session.withPreview preview }

/-- The step of a request. -/
def respond (session : Session) : Request → Step Reply
  | .call call => session.answerCall call
  | .visibleFields => session.unchanged (session.visibleFields.map .fields)
  | .initialAnswers => session.unchanged (.ok (.answers session.initialAnswers))

/-- The session after requests, whether these succeed or fail. -/
def follow (session : Session) (requests : List Request) : Session :=
  requests.foldl (fun session request => (session.respond request).session) session

/-- The responses to requests that are made one after the other. -/
def responses (session : Session) : List Request → List Response
  | [] => []
  | request :: rest =>
    let step := session.respond request
    step.response :: responses step.session rest

end Session

/-- A request for feedback on the form as it stands. -/
inductive Feedback where
  | evaluate
  | submit
  | visibleFields
  | initialAnswers
  | select (id : Value)

def Feedback.request : Feedback → Request
  | evaluate => .call .evaluate
  | submit => .call .submit
  | visibleFields => .visibleFields
  | initialAnswers => .initialAnswers
  | select id => .call (.select id)

/-- The requests of some work with feedback in between. -/
abbrev Script := List (Feedback ⊕ Request)

namespace Script

/-- All requests. -/
def requests (script : Script) : List Request :=
  script.map (Sum.elim Feedback.request id)

/-- The requests of the work alone. -/
def work (script : Script) : List Request :=
  script.filterMap Sum.getRight?

/-- Of the responses to all requests, those to the requests of the work. -/
def responsesToWork (script : Script) (responses : List Response) : List Response :=
  (script.zip responses).filterMap fun (source, response) =>
    source.getRight?.map fun _ => response

end Script

end FormEngine
