import FormEngine.Calendar.DateTime
import FormEngine.Field.Basic

/-!
# Forms

A form is a list of fields with a title, settings and the times of its creation and last change.
-/

namespace FormEngine

/-- The title of a form that has none. -/
def defaultTitle : String := "Untitled Form"

/-- What a form says when it was sent. -/
def defaultConfirmation : String := "Thank you for your submission!"

/-- Settings of a form, for the surrounding application. -/
structure Settings where
  allowMultipleSubmissions : Bool := true
  showProgressBar : Bool := false
  confirmationMessage : Value := .str defaultConfirmation
  redirectUrl : Value := .null
  saveToLocalStorage : Bool := true
  deriving DecidableEq, Repr

/-- All of a form but its fields. -/
structure FormHeader where
  id : String
  title : Value := .str defaultTitle
  description : Value := .str ""
  settings : Settings := {}
  created : Option DateTime := none
  updated : Option DateTime := none
  deriving DecidableEq, Repr

/-- A form. -/
structure Form extends FormHeader where
  fields : List Field := []
  deriving DecidableEq, Repr

namespace Form

/-- The field with an id. -/
def field? (form : Form) (id : String) : Option Field :=
  fieldWithId? form.fields id

/-- The ids of the fields, in order. -/
def fieldIds (form : Form) : List String :=
  form.fields.map (·.id)

end Form

end FormEngine
