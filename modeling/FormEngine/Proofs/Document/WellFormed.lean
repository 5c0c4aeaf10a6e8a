import FormEngine.Proofs.Document.Rereading
import FormEngine.Proofs.Document.Tree

/-!
# Well-formed forms

A well-formed form is what the types of its parts promise: words are texts, flags are booleans, and
parameters, hints and default values are trees of finite numbers. Such a form is canonical if the
offsets of its times can be told from their text. Its document is a tree of finite numbers, too,
unless the form holds something else where any value may stand.
-/

namespace FormEngine

/-- A text, as a value. -/
def Value.IsText (value : Value) : Prop :=
  ∃ text, value = .str text

/-- A text that is not empty, as a value. -/
def Value.IsNonemptyText (value : Value) : Prop :=
  ∃ text, text ≠ "" ∧ value = .str text

/-- A default value for fields of a type: a tree, which on date fields is no text that is read as a
date, or on date fields a date. -/
def Value.IsDefaultFor (type : FieldType) (value : Value) : Prop :=
  (value.IsFiniteTree ∧ (type = .date →
      ∀ text, value = .str text → Iso.readDate? (Text.trimList text.toList) = none)) ∨
    (type = .date ∧ ∃ day, value = .date day)

/-- A validation rule of a kind, with a tree as its parameter and a text as its message. -/
structure ValidationRule.WellFormed (rule : ValidationRule) : Prop where
  kind : rule.kind.IsKind
  parameter : rule.parameter.IsFiniteTree
  message : rule.message.IsText

/-- A conditional rule with a text as its trigger, an operator, and a tree to compare with. -/
structure ConditionalRule.WellFormed (rule : ConditionalRule) : Prop where
  trigger : rule.trigger.IsText
  operator : rule.operator.IsOperator
  comparison : rule.comparison.IsFiniteTree

/-- A field with what the types of its parts promise. -/
structure Field.WellFormed (field : Field) : Prop where
  id : field.id ≠ ""
  label : field.label.IsText
  placeholder : field.placeholder.IsFiniteTree
  description : field.description.IsFiniteTree
  required : ∃ flag, field.required = .bool flag
  options : field.OffersOptions
  validationRules : ∃ rules : List ValidationRule,
    field.validationRules = rules.map .proper ∧ ∀ rule ∈ rules, rule.WellFormed
  conditionalRules : ∃ rules : List ConditionalRule,
    field.conditionalRules = rules.map .proper ∧ ∀ rule ∈ rules, rule.WellFormed
  defaultValue : field.defaultValue.IsDefaultFor field.type

/-- A form with what the types of its parts promise, and with its fields in order. -/
structure Form.WellFormed (form : Form) : Prop where
  id : form.id ≠ ""
  title : form.title.IsNonemptyText
  description : form.description.IsText
  confirmation : form.settings.confirmationMessage.IsNonemptyText
  created : ∃ moment, form.created = some moment
  updated : ∃ moment, form.updated = some moment
  fields : ∀ field ∈ form.fields, field.WellFormed
  distinct : form.fieldIds.Nodup
  placed : Placed form.fields
  patterns : form.PatternsRead

/-- A form whose times can be read off their texts. -/
structure Form.TimesLegible (form : Form) : Prop where
  created : ∀ moment, form.created = some moment → moment.IsLegible
  updated : ∀ moment, form.updated = some moment → moment.IsLegible

/-- A word of a vocabulary, or a tree of finite numbers in its place. -/
def Recognised.IsTreeWord {κ : Type} : Recognised κ → Prop
  | .known _ => True
  | .unknown raw => raw.IsFiniteTree

/-- A form of which all that well-formedness leaves open is a tree of finite numbers: unknown rule
kinds and operators, and the address that the form leads to. -/
structure Form.HasTreeParts (form : Form) : Prop where
  redirect : form.settings.redirectUrl.IsFiniteTree
  kinds : ∀ field ∈ form.fields, ∀ rule, .proper rule ∈ field.validationRules →
    rule.kind.IsTreeWord
  operators : ∀ field ∈ form.fields, ∀ rule, .proper rule ∈ field.conditionalRules →
    rule.operator.IsTreeWord

/-- A text is a wording. -/
theorem Value.IsText.isWording {value : Value} (isText : value.IsText) : value.IsWording := by
  obtain ⟨text, rfl⟩ := isText
  by_cases empty : text = ""
  · exact .inr (by rw [empty])
  · exact .inl (by simp [Value.truthy, empty])

/-- A text that is not empty counts. -/
theorem Value.IsNonemptyText.truthy {value : Value} (isText : value.IsNonemptyText) :
    value.truthy = true := by
  obtain ⟨text, nonempty, rfl⟩ := isText
  simp [Value.truthy, nonempty]

/-- A text that counts is not empty. -/
theorem Value.IsText.isNonemptyText {value : Value} (isText : value.IsText)
    (counts : value.truthy = true) : value.IsNonemptyText := by
  obtain ⟨text, rfl⟩ := isText
  exact ⟨text, by simpa [Value.truthy] using counts, rfl⟩

/-- A default value is read from its document. -/
theorem Value.IsDefaultFor.readDefault_toDocument {type : FieldType} {value : Value}
    (fits : value.IsDefaultFor type) : readDefault type value.toDocument = value := by
  rcases fits with ⟨tree, undated⟩ | ⟨rfl, day, rfl⟩
  · rw [tree.toDocument]
    by_cases isDate : type = .date
    · cases value with
      | str text => simp [readDefault, isDate, undated isDate text rfl]
      | _ => simp [readDefault]
    · cases type <;> simp_all [readDefault]
  · simp [Value.toDocument, readDefault, Iso.trimList_dateText, Iso.readDate?_dateText]

/-- A well-formed field is canonical. -/
theorem Field.WellFormed.isCanonical {field : Field} (wellFormed : field.WellFormed) :
    field.IsCanonical := by
  obtain ⟨rules, areRules, rulesFit⟩ := wellFormed.validationRules
  obtain ⟨conditions, areConditions, conditionsFit⟩ := wellFormed.conditionalRules
  exact {
    id := wellFormed.id
    label := wellFormed.label.isWording
    required := wellFormed.required
    validationRules := ⟨rules, areRules, fun rule member =>
      ⟨(rulesFit rule member).kind, (rulesFit rule member).message.isWording⟩⟩
    conditionalRules := ⟨conditions, areConditions, fun rule member =>
      ⟨(conditionsFit rule member).trigger, (conditionsFit rule member).operator⟩⟩
    defaultValue := wellFormed.defaultValue.readDefault_toDocument }

/-- A well-formed form is readable. -/
theorem Form.WellFormed.isReadable {form : Form} (wellFormed : form.WellFormed) :
    form.IsReadable where
  id := wellFormed.id
  title := wellFormed.title.truthy
  description := wellFormed.description.isWording
  confirmation := wellFormed.confirmation.truthy
  created := wellFormed.created
  updated := wellFormed.updated
  fields := fun field member => ⟨(wellFormed.fields field member).isCanonical.isReadable,
    (wellFormed.fields field member).options⟩
  distinct := wellFormed.distinct
  placed := wellFormed.placed

/-- A well-formed form with legible times is canonical. -/
theorem Form.WellFormed.isCanonical {form : Form} (wellFormed : form.WellFormed)
    (legible : form.TimesLegible) : form.IsCanonical := by
  obtain ⟨created, isCreated⟩ := wellFormed.created
  obtain ⟨updated, isUpdated⟩ := wellFormed.updated
  exact { wellFormed.isReadable with
    created := ⟨created, isCreated, legible.created created isCreated⟩
    updated := ⟨updated, isUpdated, legible.updated updated isUpdated⟩
    fields := fun field member =>
      ⟨(wellFormed.fields field member).isCanonical, (wellFormed.fields field member).options⟩ }

section Trees

variable {admitted : Double → Prop}

/-- A field all of whose values are trees, those of its rules and of its default value included. -/
structure Field.HoldsTrees (admitted : Double → Prop) (field : Field) : Prop where
  label : field.label.IsTree admitted
  placeholder : field.placeholder.IsTree admitted
  description : field.description.IsTree admitted
  required : field.required.IsTree admitted
  order : field.order.IsTree admitted
  defaultValue : field.defaultValue.toDocument.IsTree admitted
  validationRules : ∃ rules : List ValidationRule, field.validationRules = rules.map .proper ∧
    ∀ rule ∈ rules, rule.toDocument.IsTree admitted
  conditionalRules : ∃ rules : List ConditionalRule, field.conditionalRules = rules.map .proper ∧
    ∀ rule ∈ rules, rule.toDocument.IsTree admitted

/-- The document of a field is a tree if its values are trees. -/
theorem Field.HoldsTrees.isTree {field : Field} (trees : field.HoldsTrees admitted)
    {document : Value} (written : field.toDocument = .ok document) : document.IsTree admitted := by
  obtain ⟨rules, areRules, ruleTrees⟩ := trees.validationRules
  obtain ⟨conditions, areConditions, conditionTrees⟩ := trees.conditionalRules
  rw [Field.toDocument_eq areRules areConditions, Except.ok.injEq] at written
  rw [← written]
  simpa [Field.parts, Choice.toDocument, trees.label, trees.placeholder, trees.description,
    trees.required, trees.order, trees.defaultValue] using And.intro ruleTrees conditionTrees

/-- The document of a time is a tree. -/
theorem isTree_timeToDocument (time : Option DateTime) :
    (timeToDocument time).IsTree admitted := by
  cases time with
  | none => exact .null
  | some moment => exact .str _

/-- The document of a form is a tree if its values are trees. -/
theorem Form.isTree_of_toDocument {form : Form} (title : form.title.IsTree admitted)
    (description : form.description.IsTree admitted)
    (confirmation : form.settings.confirmationMessage.IsTree admitted)
    (redirect : form.settings.redirectUrl.IsTree admitted)
    (fields : ∀ field ∈ form.fields, field.HoldsTrees admitted) {document : Value}
    (written : form.toDocument = .ok document) : document.IsTree admitted := by
  simp only [Form.toDocument, Result.bind_eq_ok_iff, Result.pure_eq_ok, Except.ok.injEq] at written
  obtain ⟨documents, fieldsWritten, rfl⟩ := written
  have fieldTrees : ∀ document ∈ documents, document.IsTree admitted := by
    intro document member
    obtain ⟨field, inForm, fieldWritten⟩ := Result.exists_of_mem_mapM fieldsWritten member
    exact (fields field inForm).isTree fieldWritten
  have settingsTree : form.settings.toDocument.IsTree admitted := by
    simp [Settings.toDocument, confirmation, redirect]
  simpa [title, description, settingsTree, isTree_timeToDocument] using fieldTrees

/-- A text is a tree. -/
theorem Value.IsText.isTree {value : Value} (isText : value.IsText) : value.IsTree admitted := by
  obtain ⟨text, rfl⟩ := isText
  exact .str text

/-- A text that is not empty is a tree. -/
theorem Value.IsNonemptyText.isTree {value : Value} (isText : value.IsNonemptyText) :
    value.IsTree admitted := by
  obtain ⟨text, -, rfl⟩ := isText
  exact .str text

end Trees

/-- What stands for a default value in documents is a tree. -/
theorem Value.IsDefaultFor.isFiniteTree_toDocument {type : FieldType} {value : Value}
    (fits : value.IsDefaultFor type) : value.toDocument.IsFiniteTree := by
  rcases fits with ⟨tree, -⟩ | ⟨-, day, rfl⟩
  · rw [tree.toDocument]
    exact tree
  · exact .str _

/-- What stands for a rule kind in documents is a tree if unknown kinds are. -/
theorem isFiniteTree_kindWire {kind : Recognised RuleKind} (isTree : kind.IsTreeWord) :
    kind.kindWire.IsFiniteTree := by
  cases kind with
  | known kind => exact .str _
  | unknown raw => exact isTree

/-- What stands for an operator in documents is a tree if unknown operators are. -/
theorem isFiniteTree_operatorWire {operator : Recognised Operator} (isTree : operator.IsTreeWord) :
    operator.operatorWire.IsFiniteTree := by
  cases operator with
  | known operator => exact .str _
  | unknown raw => exact isTree

/-- The document of a well-formed validation rule is a tree. -/
theorem ValidationRule.WellFormed.isFiniteTree {rule : ValidationRule}
    (wellFormed : rule.WellFormed) (isTree : rule.kind.IsTreeWord) :
    rule.toDocument.IsFiniteTree := by
  simp [ValidationRule.toDocument, isFiniteTree_kindWire isTree, wellFormed.parameter,
    wellFormed.message.isTree]

/-- The document of a well-formed conditional rule is a tree. -/
theorem ConditionalRule.WellFormed.isFiniteTree {rule : ConditionalRule}
    (wellFormed : rule.WellFormed) (isTree : rule.operator.IsTreeWord) :
    rule.toDocument.IsFiniteTree := by
  simp [ConditionalRule.toDocument, isFiniteTree_operatorWire isTree, wellFormed.comparison,
    wellFormed.trigger.isTree]

/-- The values of a well-formed field are trees if unknown rule kinds and operators are. -/
theorem Field.WellFormed.holdsTrees {field : Field} (wellFormed : field.WellFormed)
    (order : ∃ position, field.order = .int position)
    (kinds : ∀ rule, .proper rule ∈ field.validationRules → rule.kind.IsTreeWord)
    (operators : ∀ rule, .proper rule ∈ field.conditionalRules → rule.operator.IsTreeWord) :
    field.HoldsTrees fun number => number.isFinite = true := by
  obtain ⟨rules, areRules, rulesFit⟩ := wellFormed.validationRules
  obtain ⟨conditions, areConditions, conditionsFit⟩ := wellFormed.conditionalRules
  obtain ⟨position, isPosition⟩ := order
  obtain ⟨flag, isFlag⟩ := wellFormed.required
  exact {
    label := wellFormed.label.isTree
    placeholder := wellFormed.placeholder
    description := wellFormed.description
    required := isFlag ▸ .bool flag
    order := isPosition ▸ .int position
    defaultValue := wellFormed.defaultValue.isFiniteTree_toDocument
    validationRules := ⟨rules, areRules, fun rule member => (rulesFit rule member).isFiniteTree
      (kinds rule (by rw [areRules]; exact List.mem_map_of_mem member))⟩
    conditionalRules := ⟨conditions, areConditions, fun rule member =>
      (conditionsFit rule member).isFiniteTree
        (operators rule (by rw [areConditions]; exact List.mem_map_of_mem member))⟩ }

/-- The document of a form that is well formed and has trees for its other parts is a tree. -/
theorem Form.WellFormed.isFiniteTree {form : Form} (wellFormed : form.WellFormed)
    (trees : form.HasTreeParts) {document : Value} (written : form.toDocument = .ok document) :
    document.IsFiniteTree :=
  Form.isTree_of_toDocument wellFormed.title.isTree wellFormed.description.isTree
    wellFormed.confirmation.isTree trees.redirect
    (fun field member => (wellFormed.fields field member).holdsTrees
      (wellFormed.placed.order_of_mem member) (trees.kinds field member)
      (trees.operators field member)) written

end FormEngine
