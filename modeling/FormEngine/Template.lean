import FormEngine.Field.Basic

/-!
# Templates

What a new field looks like before anyone edits it, by type, and the palette to choose types from.
-/

namespace FormEngine

/-- The name of a field type in the palette. -/
def FieldType.paletteLabel : FieldType → String
  | .text => "Text Input"
  | .textarea => "Text Area"
  | .email => "Email"
  | .number => "Number"
  | .date => "Date Picker"
  | .select => "Dropdown"
  | .radio => "Radio Buttons"
  | .checkbox => "Checkboxes"
  | .file => "File Upload"
  | .phone => "Phone Number"
  | .url => "URL"
  | .password => "Password"

/-- The palette: every field type with its name. -/
def palette : List (FieldType × String) :=
  FieldType.all.map fun type => (type, type.paletteLabel)

/-- The options of a new field that offers some. -/
def defaultOptions : List Choice :=
  [⟨"Option 1", "option1"⟩, ⟨"Option 2", "option2"⟩]

/-- The rule that an email field asks for. -/
def emailRule : ValidationRule where
  kind := .known .emailFormat
  message := .str "Please enter a valid email address"

/-- The content of a new field. -/
def FieldContent.template (type : FieldType) : FieldContent where
  type
  label := .str ("New " ++ type.wire ++ " field")
  placeholder := .str (if type = .textarea then "Enter your message here..." else "")
  description := .str ""
  options := if type.isChoice then defaultOptions else []
  validationRules := if type = .email then [.proper emailRule] else []
  defaultValue := if type = .number then .int 0 else .null

/-- The rules that an editor may suggest for a new field. -/
def suggestedRules : FieldType → List ValidationRule
  | .email => [emailRule]
  | .number =>
    [⟨.known .min, .int 0, .str "Value must be greater than or equal to 0"⟩]
  | .text | .textarea => [⟨.known .minLength, .int 1, .str "This field cannot be empty"⟩]
  | _ => []

end FormEngine
