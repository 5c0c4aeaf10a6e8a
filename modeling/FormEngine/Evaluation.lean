import FormEngine.Visibility

/-!
# Evaluation

A whole form is evaluated by validating its visible fields. Hidden fields are never validated.
-/

namespace FormEngine

/-- The outcome of evaluating a form. -/
structure Evaluation where
  /-- The ids of the visible fields, each once, in order. -/
  visible : List String
  /-- The messages by field id. -/
  errors : Table Value
  deriving DecidableEq, Repr

namespace Evaluation

/-- Whether all visible fields accept their answers. -/
def isValid (evaluation : Evaluation) : Bool :=
  evaluation.errors.isEmpty

def isVisible (evaluation : Evaluation) (id : String) : Bool :=
  evaluation.visible.contains id

def errorFor (evaluation : Evaluation) (id : String) : Value :=
  (evaluation.errors.get? id).getD .null

end Evaluation

/-- Ids without repetitions, each at its first place. -/
def distinct (ids : List String) : List String :=
  ids.foldl (fun seen id => if seen.contains id then seen else seen ++ [id]) []

/-- Evaluates a form. -/
def evaluate (fields : List Field) (answers : Answers) : Except Fault Evaluation := do
  let visible ← visibleFields fields answers
  let errors ← validateFields visible answers
  return ⟨distinct (visible.map (·.id)), errors⟩

/-- What validating fields in order reports, up to the first that can not be validated. -/
def validationNotices (answers : Answers) : List Field → List Notice
  | [] => []
  | field :: rest =>
    field.notices ++
      match field.validate ((answers.get? field.id).getD .null) with
      | .ok _ => validationNotices answers rest
      | .error _ => []

/-- What evaluating a form reports. -/
def evaluationNotices (fields : List Field) (answers : Answers) : List Notice :=
  match visibleFields fields answers with
  | .ok visible => validationNotices answers visible
  | .error _ => []

end FormEngine
