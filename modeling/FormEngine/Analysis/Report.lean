import FormEngine.Analysis.Dependency
import FormEngine.Evaluation
import FormEngine.Form
import FormEngine.Sorting
import FormEngine.Value.Order

/-!
# Analysis of forms

The engine tolerates much that an editor should hear about. A report counts the fields of a form
and lists what is wrong with them: references that lead nowhere, dependencies that run in a circle,
and definitions that are incomplete or not understood.
-/

namespace FormEngine

/-- The findings about a form. -/
structure Report where
  title : Value
  totalFields : Nat := 0
  fieldsByType : Table Nat := {}
  requiredFields : Nat := 0
  fieldsWithValidation : Nat := 0
  fieldsWithConditions : Nat := 0
  /-- Triggers that are no field's id, by the id of the field with the condition. -/
  danglingReferences : Table (List Value) := {}
  selfReferences : List String := []
  cycle : Option (List String) := none
  duplicateIds : List String := []
  choicesWithoutOptions : List String := []
  emptyLabels : List String := []
  invalidPatterns : Table (List String) := {}
  unknownOperators : Table (List String) := {}
  unknownRuleKinds : Table (List String) := {}
  orderIsContiguous : Bool := true
  warnings : List String := []
  deriving DecidableEq, Repr

namespace Report

def hasCycles (report : Report) : Bool :=
  report.cycle.isSome

/-- Whether there is nothing to warn of. -/
def isClean (report : Report) : Bool :=
  report.warnings.isEmpty

end Report

/-- Ids that more than one field has, each once. -/
def duplicateIds (ids : List String) : List String :=
  distinct (ids.filter fun id => 1 < ids.count id)

/-- Numbers of occurrences, in the order of the first ones. -/
def occurrences (words : List String) : Table Nat :=
  ⟨(distinct words).map fun word => (word, words.count word)⟩

/-- Whether the claimed positions are those from zero on, each once. -/
def ordersAreContiguous (fields : List Field) : Except Fault Bool := do
  let sorted ← Sorting.sort Value.before (fields.map (·.order))
  let positions := (List.range fields.length).map fun (position : Nat) => Value.int position
  return (Value.list sorted).same (.list positions)

/-- Whether a label says nothing. A label that is no text is a fault. -/
def labelIsEmpty (label : Value) : Except Fault Bool :=
  match label with
  | .str text => .ok (Text.isBlankText text)
  | label => .error (.missingPart label.kindName "strip")

/-- Adds an id unless it is there. -/
def addOnce (ids : List String) (id : String) : List String :=
  if ids.contains id then ids else ids ++ [id]

/-- Enters what is wrong with the validation rules of a field. -/
def inspectRules (id : String) (report : Report) :
    List (Entry ValidationRule) → Except Fault Report
  | [] => .ok report
  | entry :: rest => do
    let rule ← entry.ruleOf
    match rule.kind with
    | .unknown raw =>
      let word ← raw.spell
      inspectRules id { report with unknownRuleKinds := report.unknownRuleKinds.push id word } rest
    | .known .pattern =>
      match patternStatus rule.parameter with
      | .refused fault => .error fault
      | .invalid =>
        inspectRules id
          { report with invalidPatterns := report.invalidPatterns.push id rule.parameter.text } rest
      | .absent | .valid _ => inspectRules id report rest
    | .known _ => inspectRules id report rest

/-- Enters the counts and definitions of one field. -/
def inspectField (report : Report) (field : Field) : Except Fault Report := do
  let labelEmpty ← labelIsEmpty field.label
  inspectRules field.id
    { report with
      requiredFields := report.requiredFields + if field.required.truthy then 1 else 0
      fieldsWithValidation :=
        report.fieldsWithValidation + if field.validationRules.isEmpty then 0 else 1
      fieldsWithConditions :=
        report.fieldsWithConditions + if field.conditionalRules.isEmpty then 0 else 1
      emptyLabels :=
        if labelEmpty then addOnce report.emptyLabels field.id else report.emptyLabels
      choicesWithoutOptions :=
        if field.isChoice && field.options.isEmpty then
          addOnce report.choicesWithoutOptions field.id
        else report.choicesWithoutOptions }
    field.validationRules

/-- Enters an operator unless it is known. -/
def inspectOperator (id : String) (report : Report) : Recognised Operator → Except Fault Report
  | .known _ => .ok report
  | .unknown raw => do
    let word ← raw.spell
    return { report with unknownOperators := report.unknownOperators.push id word }

/-- Enters what is wrong with one condition, or its edge if the condition refers to another
field. -/
def inspectCondition (ids : List String) (id : String) (found : Report × Dependencies)
    (entry : Entry ConditionalRule) : Except Fault (Report × Dependencies) := do
  let (report, graph) := found
  let rule ← entry.conditionOf
  let report ← inspectOperator id report rule.operator
  if rule.trigger = .str id then
    return ({ report with selfReferences := addOnce report.selfReferences id }, graph)
  else
    match rule.trigger.unkeyable? with
    | some part => .error (.notKeyable part.kindName)
    | none =>
      match rule.trigger with
      | .str trigger =>
        if ids.contains trigger then return (report, graph.insert trigger id)
        else
          return ({ report with
            danglingReferences := report.danglingReferences.push id rule.trigger }, graph)
      | trigger =>
        return ({ report with
          danglingReferences := report.danglingReferences.push id trigger }, graph)

/-- Enters the conditions of the fields, one by one. -/
def inspectConditions (ids : List String) (found : Report × Dependencies) :
    List (String × Entry ConditionalRule) → Except Fault (Report × Dependencies)
  | [] => .ok found
  | (id, entry) :: rest => do
    let found ← inspectCondition ids id found entry
    inspectConditions ids found rest

/-- The conditions of all fields, each with the id of its field. -/
def conditionsOf (fields : List Field) : List (String × Entry ConditionalRule) :=
  fields.flatMap fun field => field.conditionalRules.map fun entry => (field.id, entry)

/-- Joins texts; what is no text is a fault. -/
def joinTexts (separator : String) (items : List Value) : Except Fault String := do
  let texts ← items.zipIdx.mapM fun (item, position) =>
    match item with
    | .str text => .ok text
    | item => .error (.notText position item.kindName)
  return separator.intercalate texts

/-- Ids in ascending order, separated by commas. -/
def sortedIds (ids : List String) : String :=
  ", ".intercalate (ids.mergeSort fun left right => left ≤ right)

/-- A warning that lists ids, if there are any. -/
def warnOfIds (intro : String) (ids : List String) : List String :=
  if ids.isEmpty then [] else [intro ++ ": " ++ sortedIds ids]

/-- The warning of missing triggers. -/
def warnOfMissing (dangling : Table (List Value)) : Except Fault (List String) := do
  if dangling.isEmpty then return []
  else
    let missing ← Sorting.sort Value.before
      (Value.distinctItems (dangling.entries.flatMap (·.2)))
    return ["Conditions reference missing fields: " ++ (← joinTexts ", " missing)]

/-- The warnings of a report, in their fixed order. -/
def warningsOf (report : Report) : Except Fault (List String) := do
  let missing ← warnOfMissing report.danglingReferences
  return warnOfIds "Duplicate field ids" report.duplicateIds
    ++ (if report.orderIsContiguous then []
      else ["Field order is not a permutation of 0..n-1"])
    ++ missing
    ++ warnOfIds "Fields conditioned on themselves" report.selfReferences
    ++ (match report.cycle with
      | some cycle => ["Visibility dependency cycle: " ++ " -> ".intercalate cycle]
      | none => [])
    ++ warnOfIds "Choice fields without options" report.choicesWithoutOptions
    ++ warnOfIds "Fields with empty labels" report.emptyLabels
    ++ warnOfIds "Invalid validation patterns on" report.invalidPatterns.keys
    ++ warnOfIds "Unknown condition operators on" report.unknownOperators.keys
    ++ warnOfIds "Unknown validation rule kinds on" report.unknownRuleKinds.keys

/-- The report on fields under a title. -/
def analyzeFields (title : Value) (fields : List Field) : Except Fault Report := do
  let ids := fields.map (·.id)
  let contiguous ← ordersAreContiguous fields
  let counted ← fields.foldlM inspectField
    { title
      totalFields := fields.length
      fieldsByType := occurrences (fields.map (·.type.wire))
      duplicateIds := duplicateIds ids
      orderIsContiguous := contiguous }
  let (report, graph) ← inspectConditions ids (counted, {}) (conditionsOf fields)
  let report := { report with cycle := graph.cycle? }
  let warnings ← warningsOf report
  return { report with warnings }

/-- The report on a form. -/
def Form.analyze (form : Form) : Except Fault Report :=
  analyzeFields form.title form.fields

end FormEngine
