import FormEngine.Value.Equality
import FormEngine.Value.Text

/-!
# Notices

What the engine reports besides its results: things that it tolerates and that an editor of the
form should hear about.
-/

namespace FormEngine

open FormEngine.Text (quoted)

/-- An event for the log. -/
inductive Notice where
  /-- A pattern of a field is no pattern; its rule is left out. -/
  | invalidPattern (parameter : Value) (fieldId : String)
  /-- A text is no document of its format. -/
  | rejectedDocument
  /-- Conditions went with the field they depended on. -/
  | droppedConditions (count : Nat) (fieldId : String)
  deriving DecidableEq, Repr

/-- What a notice says. -/
def Notice.message : Notice → String
  | .invalidPattern parameter fieldId =>
    "Invalid pattern " ++ parameter.display ++ " on field " ++ quoted fieldId
  | .rejectedDocument => "Rejected schema import"
  | .droppedConditions count fieldId =>
    "Dropped " ++ intText count ++ " conditional rule(s) that referenced deleted field " ++ fieldId

/-- The warning of an importer that a rule has no valid pattern. -/
structure PatternWarning where
  fieldId : String
  parameter : Value
  deriving DecidableEq, Repr

/-- What a warning says. -/
def PatternWarning.message (warning : PatternWarning) : String :=
  "Field " ++ quoted warning.fieldId ++ " has an invalid pattern " ++ warning.parameter.display

end FormEngine
