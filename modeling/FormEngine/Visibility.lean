import FormEngine.Answer
import FormEngine.Validation.Basic

/-!
# Visibility

A field is visible when all its conditional rules hold. A trigger without an answer counts as empty
text, a rule on a field that is not there holds, and so does a rule with an unknown operator.
-/

namespace FormEngine

namespace Value

/-- Equality of answers. Booleans equal booleans only, numbers are compared by amount, and other
values equal values of their own kind only. -/
def strictlyEquals (left right : Value) : Bool :=
  match left, right with
  | .bool a, .bool b => a == b
  | .bool _, _ => false
  | _, .bool _ => false
  | _, _ => left.same right

/-- Whether an answer contains something: text the text of it, a collection an equal item. -/
def containsValue (answer needle : Value) : Except Fault Bool :=
  match answer with
  | .str text => do return occursIn (← needle.spell).toList text.toList
  | .collection _ items => .ok (items.any (·.strictlyEquals needle))
  | _ => .ok false

/-- Compares two answers as numbers; what is no number compares to nothing. -/
def compareNumbers (holds : Double → Double → Bool) (answer comparison : Value) :
    Except Fault Bool := do
  let left ← answer.number?
  let right ← comparison.number?
  match left, right with
  | some left, some right => return holds left right
  | _, _ => return false

end Value

/-- Whether a rule holds of an answer to a trigger of a type. -/
def ConditionalRule.holds (rule : ConditionalRule) (answer : Value) (type : Option FieldType) :
    Except Fault Bool :=
  match rule.operator with
  | .known .equals => .ok (answer.strictlyEquals rule.comparison)
  | .known .notEquals => .ok (!answer.strictlyEquals rule.comparison)
  | .known .contains => answer.containsValue rule.comparison
  | .known .greaterThan =>
    answer.compareNumbers (fun left right => right.lessThan left) rule.comparison
  | .known .lessThan => answer.compareNumbers Double.lessThan rule.comparison
  | .known .notEmpty => .ok (!answer.isEmptyAnswer type)
  | .known .empty => .ok (answer.isEmptyAnswer type)
  | .unknown _ => .ok true

/-- The field that an id refers to. Of several fields with one id the last counts. -/
def referredField? (fields : List Field) (id : String) : Option Field :=
  fields.reverse.find? (·.id == id)

/-- The conditional rule of an entry; a stray value has no trigger. -/
def Entry.conditionOf : Entry ConditionalRule → Except Fault ConditionalRule
  | .proper rule => .ok rule
  | .stray value => .error (.missingPart value.kindName "trigger_field_id")

/-- The field that triggers a rule. A trigger that can not be a key can not be looked up. -/
def ConditionalRule.triggerField? (rule : ConditionalRule) (fields : List Field) :
    Except Fault (Option Field) :=
  match rule.trigger.unkeyable? with
  | some part => .error (.notKeyable part.kindName)
  | none => .ok (rule.trigger.text?.bind (referredField? fields))

/-- Whether a rule is met by the answers. -/
def ConditionalRule.isMet (rule : ConditionalRule) (fields : List Field) (answers : Answers) :
    Except Fault Bool := do
  match ← rule.triggerField? fields with
  | none => return true
  | some trigger => rule.holds ((answers.get? trigger.id).getD (.str "")) (some trigger.type)

/-- Whether all rules are met; the first that is not ends the search. -/
def allMet (fields : List Field) (answers : Answers) :
    List (Entry ConditionalRule) → Except Fault Bool
  | [] => .ok true
  | entry :: rest => do
    let rule ← entry.conditionOf
    if ← rule.isMet fields answers then allMet fields answers rest else return false

/-- Whether a field is visible among the given fields. -/
def Field.isVisible (field : Field) (fields : List Field) (answers : Answers) :
    Except Fault Bool :=
  allMet fields answers field.conditionalRules

/-- The visible ones of some fields, in order. -/
def visibleAmong (fields : List Field) (answers : Answers) :
    List Field → Except Fault (List Field)
  | [] => .ok []
  | field :: rest => do
    let visible ← field.isVisible fields answers
    let others ← visibleAmong fields answers rest
    return if visible then field :: others else others

/-- The visible fields, in order. -/
def visibleFields (fields : List Field) (answers : Answers) : Except Fault (List Field) :=
  visibleAmong fields answers fields

end FormEngine
