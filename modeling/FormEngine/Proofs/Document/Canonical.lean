import FormEngine.Document.Reading
import FormEngine.Proofs.Calendar.RoundTrip
import FormEngine.Proofs.Document.Rearrangement
import FormEngine.Proofs.Field.Numbering
import FormEngine.Proofs.Result

/-!
# Canonical forms

Editors may leave in a form what no document would give: rules that are none, positions that do not
count the fields, wordings that count as left out. A canonical form has nothing of this. It is what
reading gives, and what its document can be read back to.
-/

namespace FormEngine

/-- A wording that may be left out: something that counts, or the empty text. -/
def Value.IsWording (value : Value) : Prop :=
  value.truthy = true ∨ value = .str ""

/-- A rule kind that its own document names. -/
def Recognised.IsKind : Recognised RuleKind → Prop
  | .known _ => True
  | .unknown raw =>
    raw.unkeyable? = none ∧ raw ≠ .null ∧ raw.text?.bind RuleKind.ofWire? = none

/-- An operator that its own document names. -/
def Recognised.IsOperator : Recognised Operator → Prop
  | .known _ => True
  | .unknown raw => raw.text?.bind Operator.ofWire? = none

/-- A validation rule that its own document gives. -/
structure ValidationRule.IsCanonical (rule : ValidationRule) : Prop where
  kind : rule.kind.IsKind
  message : rule.message.IsWording

/-- A conditional rule that its own document gives. -/
structure ConditionalRule.IsCanonical (rule : ConditionalRule) : Prop where
  trigger : ∃ text, rule.trigger = .str text
  operator : rule.operator.IsOperator

/-- A field that its own document gives, but for its position. -/
structure Field.IsCanonical (field : Field) : Prop where
  id : field.id ≠ ""
  label : field.label.IsWording
  required : ∃ flag, field.required = .bool flag
  validationRules : ∃ rules : List ValidationRule,
    field.validationRules = rules.map .proper ∧ ∀ rule ∈ rules, rule.IsCanonical
  conditionalRules : ∃ rules : List ConditionalRule,
    field.conditionalRules = rules.map .proper ∧ ∀ rule ∈ rules, rule.IsCanonical
  defaultValue : readDefault field.type field.defaultValue.toDocument = field.defaultValue

/-- A field that its own document gives, but for its position and its default value. -/
structure Field.IsReadable (field : Field) : Prop where
  id : field.id ≠ ""
  label : field.label.IsWording
  required : ∃ flag, field.required = .bool flag
  validationRules : ∃ rules : List ValidationRule,
    field.validationRules = rules.map .proper ∧ ∀ rule ∈ rules, rule.IsCanonical
  conditionalRules : ∃ rules : List ConditionalRule,
    field.conditionalRules = rules.map .proper ∧ ∀ rule ∈ rules, rule.IsCanonical

/-- A canonical field is readable. -/
theorem Field.IsCanonical.isReadable {field : Field} (canonical : field.IsCanonical) :
    field.IsReadable :=
  { canonical with }

/-- A field of a kind that offers options has one. -/
def Field.OffersOptions (field : Field) : Prop :=
  field.isChoice = true → field.options ≠ []

/-- A form that its own document gives. -/
structure Form.IsCanonical (form : Form) : Prop where
  id : form.id ≠ ""
  title : form.title.truthy = true
  description : form.description.IsWording
  confirmation : form.settings.confirmationMessage.truthy = true
  created : ∃ moment, form.created = some moment ∧ moment.IsLegible
  updated : ∃ moment, form.updated = some moment ∧ moment.IsLegible
  fields : ∀ field ∈ form.fields, field.IsCanonical ∧ field.OffersOptions
  distinct : form.fieldIds.Nodup
  placed : Placed form.fields

/-- A form that its own document gives, but for what is read of times and of default values. -/
structure Form.IsReadable (form : Form) : Prop where
  id : form.id ≠ ""
  title : form.title.truthy = true
  description : form.description.IsWording
  confirmation : form.settings.confirmationMessage.truthy = true
  created : ∃ moment, form.created = some moment
  updated : ∃ moment, form.updated = some moment
  fields : ∀ field ∈ form.fields, field.IsReadable ∧ field.OffersOptions
  distinct : form.fieldIds.Nodup
  placed : Placed form.fields

/-- A canonical form is readable. -/
theorem Form.IsCanonical.isReadable {form : Form} (canonical : form.IsCanonical) :
    form.IsReadable :=
  { canonical with
    created := canonical.created.imp fun _ => And.left
    updated := canonical.updated.imp fun _ => And.left
    fields := fun field member =>
      ⟨(canonical.fields field member).1.isReadable, (canonical.fields field member).2⟩ }

/-- A word of a vocabulary, or what stands in its place under a function. -/
def Recognised.mapRaw {κ : Type} (change : Value → Value) : Recognised κ → Recognised κ
  | .known word => .known word
  | .unknown raw => .unknown (change raw)

def ValidationRule.mapValues (change : Value → Value) (rule : ValidationRule) :
    ValidationRule where
  kind := rule.kind.mapRaw change
  parameter := change rule.parameter
  message := change rule.message

def ConditionalRule.mapValues (change : Value → Value) (rule : ConditionalRule) :
    ConditionalRule where
  trigger := change rule.trigger
  operator := rule.operator.mapRaw change
  comparison := change rule.comparison

def Entry.mapValues {α : Type} (changeItem : α → α) (change : Value → Value) : Entry α → Entry α
  | .proper item => .proper (changeItem item)
  | .stray value => .stray (change value)

def Field.mapValues (change : Value → Value) (field : Field) : Field where
  type := field.type
  label := change field.label
  placeholder := change field.placeholder
  description := change field.description
  required := change field.required
  options := field.options
  validationRules := field.validationRules.map (.mapValues (.mapValues change) change)
  conditionalRules := field.conditionalRules.map (.mapValues (.mapValues change) change)
  defaultValue := change field.defaultValue
  id := field.id
  order := change field.order

def Settings.mapValues (change : Value → Value) (settings : Settings) : Settings :=
  { settings with
    confirmationMessage := change settings.confirmationMessage
    redirectUrl := change settings.redirectUrl }

/-- The form with every value of it changed by a function. -/
def Form.mapValues (change : Value → Value) (form : Form) : Form :=
  { form with
    title := change form.title
    description := change form.description
    settings := form.settings.mapValues change
    fields := form.fields.map (.mapValues change) }

/-- What is read of the document of a field whose values were changed by a function. -/
def Field.reread (change : Value → Value) (field : Field) : Field :=
  { field.mapValues change with
    defaultValue := readDefault field.type (change field.defaultValue.toDocument) }

/-- What is read of the document of a form whose values were changed by a function. -/
def Form.reread (change : Value → Value) (form : Form) : Form :=
  { form.mapValues change with
    created := form.created.map DateTime.asRead
    updated := form.updated.map DateTime.asRead
    fields := form.fields.map (.reread change) }

/-- A form whose values are not changed is the form. -/
@[simp] theorem Form.mapValues_id (form : Form) : form.mapValues id = form := by
  have validation : (Entry.mapValues (ValidationRule.mapValues id) id) = id := by
    funext entry
    rcases entry with ⟨⟨word⟩ | ⟨raw⟩⟩ | value <;> rfl
  have conditional : (Entry.mapValues (ConditionalRule.mapValues id) id) = id := by
    funext entry
    rcases entry with ⟨trigger, ⟨word⟩ | ⟨raw⟩⟩ | value <;> rfl
  have fields : Field.mapValues id = id := by
    funext field
    simp [Field.mapValues, validation, conditional]
  simp [Form.mapValues, Settings.mapValues, fields]

/-- Reading again keeps ids. -/
@[simp] theorem Form.fieldIds_reread (change : Value → Value) (form : Form) :
    (form.reread change).fieldIds = form.fieldIds := by
  simp [Form.reread, Form.fieldIds, Function.comp_def, Field.reread, Field.mapValues]

end FormEngine
