import FormEngine.Calendar.Iso
import FormEngine.Form
import FormEngine.Validation.Basic
import FormEngine.Visibility

/-!
# Writing documents

A document is the form of a form outside the engine: maps, lists and plain values. Every part of a
form has a fixed map that stands for it. Writing fails only where an editor left something among
the rules that is no rule.
-/

namespace FormEngine

/-- A default value as documents hold it: dates and times stand as ISO text. -/
def Value.toDocument : Value → Value
  | .date day => .str (String.ofList (Iso.dateText day))
  | .dateTime moment => .str (String.ofList (Iso.dateTimeText 'T' moment))
  | value => value

/-- A time as documents hold it. -/
def timeToDocument : Option DateTime → Value
  | some moment => .str (String.ofList (Iso.dateTimeText 'T' moment))
  | none => .null

def Choice.toDocument (choice : Choice) : Value :=
  .record [("label", .str choice.label), ("value", .str choice.value)]

def ValidationRule.toDocument (rule : ValidationRule) : Value :=
  .record [("kind", rule.kind.kindWire), ("parameter", rule.parameter), ("message", rule.message)]

def ConditionalRule.toDocument (rule : ConditionalRule) : Value :=
  .record [("triggerFieldId", rule.trigger), ("operator", rule.operator.operatorWire),
    ("comparisonValue", rule.comparison)]

/-- The document of a field. -/
def Field.toDocument (field : Field) : Except Fault Value := do
  let validationRules ← field.validationRules.mapM Entry.ruleOf
  let conditionalRules ← field.conditionalRules.mapM Entry.conditionOf
  return .record [
    ("id", .str field.id),
    ("type", .str field.type.wire),
    ("label", field.label),
    ("placeholder", field.placeholder),
    ("description", field.description),
    ("required", field.required),
    ("options", .list (field.options.map Choice.toDocument)),
    ("validationRules", .list (validationRules.map ValidationRule.toDocument)),
    ("conditionalRules", .list (conditionalRules.map ConditionalRule.toDocument)),
    ("order", field.order),
    ("defaultValue", field.defaultValue.toDocument)]

def Settings.toDocument (settings : Settings) : Value :=
  .record [
    ("allowMultipleSubmissions", .bool settings.allowMultipleSubmissions),
    ("showProgressBar", .bool settings.showProgressBar),
    ("confirmationMessage", settings.confirmationMessage),
    ("redirectUrl", settings.redirectUrl),
    ("saveToLocalStorage", .bool settings.saveToLocalStorage)]

/-- The document of a form. -/
def Form.toDocument (form : Form) : Except Fault Value := do
  let fields ← form.fields.mapM Field.toDocument
  return .record [
    ("id", .str form.id),
    ("title", form.title),
    ("description", form.description),
    ("fields", .list fields),
    ("settings", form.settings.toDocument),
    ("created", timeToDocument form.created),
    ("updated", timeToDocument form.updated)]

end FormEngine
