import FormEngine.Document.Reading
import FormEngine.Document.Writing
import FormEngine.Proofs.Result
import Mathlib.Data.Set.List

/-!
# Dialects of documents

What a document says can be spelled in several ways. Older documents have other names for some of
its parts and another word for one kind of rules, they give an option whose label is its value as a
plain text, and some wrap the form and leave its fields beside it. Here a document is the tree of
its parts; it has one canonical spelling, which is the one that forms are written in, and is spelled
in a dialect by every value in which each of its parts is found under one of its names. A value may
mix the names of both dialects, and the order of its entries does not count.
-/

namespace FormEngine

/-- What a document says about an option. -/
structure ChoiceDocument where
  label : Value
  value : Value

/-- What a document says about a validation rule. -/
structure RuleDocument where
  kind : Value
  parameter : Value
  message : Value

/-- What a document says about a conditional rule. -/
structure ConditionDocument where
  trigger : Value
  operator : Value
  comparison : Value

/-- What a document says about a field. -/
structure FieldDocument where
  id : Value
  type : Value
  label : Value
  placeholder : Value
  description : Value
  required : Value
  options : List ChoiceDocument
  validationRules : List RuleDocument
  conditionalRules : List ConditionDocument
  order : Value
  defaultValue : Value

/-- What a document says about a form. -/
structure FormDocument where
  id : Value
  title : Value
  description : Value
  fields : List FieldDocument
  settings : Value
  created : Value
  updated : Value

def ChoiceDocument.toValue (document : ChoiceDocument) : Value :=
  .record [("label", document.label), ("value", document.value)]

def RuleDocument.toValue (document : RuleDocument) : Value :=
  .record [("kind", document.kind), ("parameter", document.parameter),
    ("message", document.message)]

def ConditionDocument.toValue (document : ConditionDocument) : Value :=
  .record [("triggerFieldId", document.trigger), ("operator", document.operator),
    ("comparisonValue", document.comparison)]

def FieldDocument.toValue (document : FieldDocument) : Value :=
  .record [
    ("id", document.id),
    ("type", document.type),
    ("label", document.label),
    ("placeholder", document.placeholder),
    ("description", document.description),
    ("required", document.required),
    ("options", .list (document.options.map ChoiceDocument.toValue)),
    ("validationRules", .list (document.validationRules.map RuleDocument.toValue)),
    ("conditionalRules", .list (document.conditionalRules.map ConditionDocument.toValue)),
    ("order", document.order),
    ("defaultValue", document.defaultValue)]

def FormDocument.toValue (document : FormDocument) : Value :=
  .record [
    ("id", document.id),
    ("title", document.title),
    ("description", document.description),
    ("fields", .list (document.fields.map FieldDocument.toValue)),
    ("settings", document.settings),
    ("created", document.created),
    ("updated", document.updated)]

/-- A written field is the canonical spelling of a document. -/
theorem Field.exists_document {field : Field} {written : Value}
    (isWritten : field.toDocument = .ok written) :
    ∃ document : FieldDocument, document.toValue = written := by
  simp only [toDocument, Result.bind_eq_ok_iff] at isWritten
  obtain ⟨rules, -, conditions, -, same⟩ := isWritten
  obtain rfl := Except.ok.inj same
  refine ⟨{
    id := .str field.id
    type := .str field.type.wire
    label := field.label
    placeholder := field.placeholder
    description := field.description
    required := field.required
    options := field.options.map fun choice => ⟨.str choice.label, .str choice.value⟩
    validationRules := rules.map fun rule => ⟨rule.kind.kindWire, rule.parameter, rule.message⟩
    conditionalRules := conditions.map fun rule =>
      ⟨rule.trigger, rule.operator.operatorWire, rule.comparison⟩
    order := field.order
    defaultValue := field.defaultValue.toDocument }, ?_⟩
  simp only [FieldDocument.toValue, List.map_map]
  rfl

/-- So is a written form. -/
theorem Form.exists_document {form : Form} {written : Value}
    (isWritten : form.toDocument = .ok written) :
    ∃ document : FormDocument, document.toValue = written := by
  simp only [toDocument, Result.bind_eq_ok_iff] at isWritten
  obtain ⟨values, areWritten, same⟩ := isWritten
  obtain rfl := Except.ok.inj same
  have spelled : values ∈ Set.range (List.map FieldDocument.toValue) := by
    rw [Set.range_list_map]
    intro value member
    obtain ⟨field, -, fieldWritten⟩ := Result.exists_of_mem_mapM areWritten member
    exact Field.exists_document fieldWritten
  obtain ⟨fields, rfl⟩ := spelled
  exact ⟨⟨.str form.id, form.title, form.description, fields, form.settings.toDocument,
    timeToDocument form.created, timeToDocument form.updated⟩, rfl⟩

/-- What a map gives under a name that has an older one. The older name counts where the other is
not there. -/
inductive Entries.Gives (entries : Entries) (key legacy : String) (value : Value) : Prop
  | named (found : lookup key entries = some value)
  | named_before (absent : lookup key entries = none) (found : lookup legacy entries = some value)

/-- What is given under one of two names is what is asked for under both. -/
theorem Entries.Gives.partOrLegacy_eq {entries : Entries} {key legacy : String} {value : Value}
    (gives : entries.Gives key legacy value) : entries.partOrLegacy key legacy = value := by
  cases gives with
  | named found => simp [partOrLegacy, found]
  | named_before absent found => simp [partOrLegacy, absent, found]

/-- The words of a rule kind. -/
inductive RuleKind.IsWord : Value → Value → Prop
  | same (kind : Value) : IsWord kind kind
  | email : IsWord (.str emailFormat.wire) (.str "email")

/-- An option is spelled by a map, or by a plain text that is its label and its value. -/
inductive ChoiceDocument.IsSpelledBy : ChoiceDocument → Value → Prop
  | labelled {document : ChoiceDocument} {entries : Entries}
      (label : lookup "label" entries = some document.label)
      (value : lookup "value" entries = some document.value) :
      IsSpelledBy document (.map entries)
  | plain (text : String) : IsSpelledBy ⟨.str text, .str text⟩ (.str text)

/-- A map in which the parts of a validation rule are found. -/
structure RuleDocument.IsFoundIn (document : RuleDocument) (entries : Entries) : Prop where
  kind : ∃ word, RuleKind.IsWord document.kind word ∧ entries.Gives "kind" "type" word
  parameter : entries.Gives "parameter" "value" document.parameter
  message : lookup "message" entries = some document.message

def RuleDocument.IsSpelledBy (document : RuleDocument) (value : Value) : Prop :=
  ∃ entries, value = .map entries ∧ document.IsFoundIn entries

/-- A map in which the parts of a conditional rule are found. -/
structure ConditionDocument.IsFoundIn (document : ConditionDocument) (entries : Entries) :
    Prop where
  trigger : entries.Gives "triggerFieldId" "fieldId" document.trigger
  operator : lookup "operator" entries = some document.operator
  comparison : entries.Gives "comparisonValue" "value" document.comparison

def ConditionDocument.IsSpelledBy (document : ConditionDocument) (value : Value) : Prop :=
  ∃ entries, value = .map entries ∧ document.IsFoundIn entries

/-- A map in which the parts of a field are found. -/
structure FieldDocument.IsFoundIn (document : FieldDocument) (entries : Entries) : Prop where
  id : lookup "id" entries = some document.id
  type : lookup "type" entries = some document.type
  label : lookup "label" entries = some document.label
  placeholder : lookup "placeholder" entries = some document.placeholder
  description : lookup "description" entries = some document.description
  required : lookup "required" entries = some document.required
  options : ∃ items, lookup "options" entries = some (.list items) ∧
    List.Forall₂ ChoiceDocument.IsSpelledBy document.options items
  validationRules : ∃ items, entries.Gives "validationRules" "validation" (.list items) ∧
    List.Forall₂ RuleDocument.IsSpelledBy document.validationRules items
  conditionalRules : ∃ items, lookup "conditionalRules" entries = some (.list items) ∧
    List.Forall₂ ConditionDocument.IsSpelledBy document.conditionalRules items
  order : lookup "order" entries = some document.order
  defaultValue : lookup "defaultValue" entries = some document.defaultValue

def FieldDocument.IsSpelledBy (document : FieldDocument) (value : Value) : Prop :=
  ∃ entries, value = .map entries ∧ document.IsFoundIn entries

/-- A map in which all parts of a form but its fields are found. -/
structure FormDocument.HeadIsFoundIn (document : FormDocument) (entries : Entries) : Prop where
  id : lookup "id" entries = some document.id
  title : lookup "title" entries = some document.title
  description : lookup "description" entries = some document.description
  settings : lookup "settings" entries = some document.settings
  created : entries.Gives "created" "createdAt" document.created
  updated : entries.Gives "updated" "updatedAt" document.updated

/-- The fields of a form stand among its other parts, or beside a map of these. -/
inductive FormDocument.IsSpelledBy (document : FormDocument) : Value → Prop
  | plain {entries : Entries} {items : List Value}
      (form : lookup "form" entries = none)
      (head : document.HeadIsFoundIn entries)
      (fields : lookup "fields" entries = some (.list items))
      (each : List.Forall₂ FieldDocument.IsSpelledBy document.fields items) :
      document.IsSpelledBy (.map entries)
  | wrapped {entries inner : Entries} {items : List Value}
      (form : lookup "form" entries = some (.map inner))
      (head : document.HeadIsFoundIn inner)
      (fields : lookup "fields" entries = some (.list items))
      (each : List.Forall₂ FieldDocument.IsSpelledBy document.fields items) :
      document.IsSpelledBy (.map entries)

/-- The canonical spelling of an option spells it, and so it is with rules and conditions. -/
theorem ChoiceDocument.isSpelledBy_toValue (document : ChoiceDocument) :
    document.IsSpelledBy document.toValue :=
  .labelled rfl rfl

theorem RuleDocument.isSpelledBy_toValue (document : RuleDocument) :
    document.IsSpelledBy document.toValue :=
  ⟨_, rfl, ⟨_, .same _, .named rfl⟩, .named rfl, rfl⟩

theorem ConditionDocument.isSpelledBy_toValue (document : ConditionDocument) :
    document.IsSpelledBy document.toValue :=
  ⟨_, rfl, .named rfl, rfl, .named rfl⟩

/-- A list is spelled by the canonical spellings of its items. -/
theorem forall₂_isSpelledBy_toValue {α : Type} {spells : α → Value → Prop} {toValue : α → Value}
    (each : ∀ item, spells item (toValue item)) (items : List α) :
    List.Forall₂ spells items (items.map toValue) := by
  rw [List.forall₂_map_right_iff, List.forall₂_same]
  exact fun item _ => each item

theorem FieldDocument.isSpelledBy_toValue (document : FieldDocument) :
    document.IsSpelledBy document.toValue :=
  ⟨_, rfl, {
    id := rfl
    type := rfl
    label := rfl
    placeholder := rfl
    description := rfl
    required := rfl
    options := ⟨_, rfl, forall₂_isSpelledBy_toValue ChoiceDocument.isSpelledBy_toValue _⟩
    validationRules :=
      ⟨_, .named rfl, forall₂_isSpelledBy_toValue RuleDocument.isSpelledBy_toValue _⟩
    conditionalRules :=
      ⟨_, rfl, forall₂_isSpelledBy_toValue ConditionDocument.isSpelledBy_toValue _⟩
    order := rfl
    defaultValue := rfl }⟩

theorem FormDocument.isSpelledBy_toValue (document : FormDocument) :
    document.IsSpelledBy document.toValue :=
  .plain rfl ⟨rfl, rfl, rfl, rfl, .named rfl, .named rfl⟩ rfl
    (forall₂_isSpelledBy_toValue FieldDocument.isSpelledBy_toValue _)

end FormEngine
