import FormEngine.Session.Basic
import FormEngine.Yaml.Library

/-!
# An example session

A contact form with choices, ordered rules and conditions, made step by step at one moment.
-/

namespace FormEngine.Session

/-- The fields of the contact form: their types and attributes. -/
def contactFields : List (FieldType × Attributes) :=
  let required : Attribute := .required (.bool true)
  let label (text : String) : Attribute := .label (.str text)
  let options (choices : List Choice) : Attribute := .options (.entries (choices.map .proper))
  let rules (rules : List ValidationRule) : Attribute :=
    .validationRules (.entries (rules.map .proper))
  let conditions (rules : List ConditionalRule) : Attribute :=
    .conditionalRules (.entries (rules.map .proper))
  [(.text, [label "Name", required,
      rules [⟨.known .minLength, .int 2, .str "Name must be at least 2 characters"⟩]]),
    (.email, [label "Email", required]),
    (.radio, [label "Preferred contact method", required,
      options [⟨"Email", "email"⟩, ⟨"Phone", "phone"⟩]]),
    (.phone, [label "Phone", required,
      conditions [⟨.str "f4", .known .equals, .str "phone"⟩]]),
    (.number, [label "Age", .defaultValue .null,
      rules [⟨.known .min, .int 18, .str "You must be at least 18"⟩,
        ⟨.known .max, .int 120, .str "Please enter a realistic age"⟩]]),
    (.checkbox, [label "Topics", required,
      options [⟨"Sales", "sales"⟩, ⟨"Support", "support"⟩, ⟨"Other", "other"⟩]]),
    (.textarea, [label "Describe your issue",
      conditions [⟨.str "f7", .known .contains, .str "support"⟩,
        ⟨.str "f2", .known .notEmpty, .null⟩],
      rules [⟨.known .maxLength, .int 500, .str "Keep it under 500 characters"⟩]])]

/-- A session with the contact form, saved and with nothing selected. -/
def contactForm : Session :=
  let empty := new (.counting "f") (.still .startOf2024) Yaml.library
  let created := (empty.create (.str "Contact us") (.str "Tell us how we can help")).session
  let filled := contactFields.foldl
    (fun session field => (session.add (.str field.1.wire) field.2).session) created
  (filled.select .null).session.save.session

end FormEngine.Session
