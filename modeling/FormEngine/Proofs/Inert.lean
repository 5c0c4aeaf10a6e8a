import FormEngine.Evaluation
import FormEngine.Proofs.Field.Broken

/-!
# Rules that evaluation does not notice

Validation rules that can not be applied and conditions that are met anyway may be left out of the
fields of a form. A form without them has the same visible fields, the same messages and the same
failures.
-/

namespace FormEngine

variable {fields : List Field} {answers : Answers}

/-- Rules that can not be applied may be left out before the rules are compiled. -/
theorem compileRules_filter {type : FieldType} {rules : ValidationRule → Bool}
    (idle : ∀ rule, rules rule = true → ruleCheck type rule = .ok none)
    (entries : List (Entry ValidationRule)) :
    compileRules type (entries.filter (!·.proper?.any rules)) = compileRules type entries := by
  induction entries with
  | nil => rfl
  | cons entry rest inductionHypothesis =>
    cases entry with
    | stray value => rfl
    | proper rule =>
      cases isDropped : rules rule with
      | true =>
        simp only [compileRules, Entry.ruleOf, idle rule isDropped, Result.ok_bind]
        cases compiled : compileRules type rest <;> simp [isDropped, inductionHypothesis, compiled]
      | false => simp [isDropped, inductionHypothesis, compileRules]

/-- All rules of a list are met in the same case, among other fields and by other answers, if each of
them is. -/
theorem allMet_congr {others : List Field} {otherAnswers : Answers}
    {entries : List (Entry ConditionalRule)}
    (same : ∀ rule ∈ entries.filterMap Entry.proper?,
      rule.isMet others otherAnswers = rule.isMet fields answers) :
    allMet others otherAnswers entries = allMet fields answers entries := by
  induction entries with
  | nil => rfl
  | cons entry rest inductionHypothesis =>
    cases entry with
    | stray value => rfl
    | proper rule =>
      rw [List.filterMap_cons_some (Entry.proper?_proper rule), List.forall_mem_cons] at same
      simp only [allMet, Entry.conditionOf, Result.ok_bind, same.1, inductionHypothesis same.2]

/-- Conditions that are met anyway may be left out of those to be met. -/
theorem allMet_filter {conditions : ConditionalRule → Bool}
    (idle : ∀ rule, conditions rule = true → rule.isMet fields answers = .ok true)
    (entries : List (Entry ConditionalRule)) :
    allMet fields answers (entries.filter (!·.proper?.any conditions)) =
      allMet fields answers entries := by
  induction entries with
  | nil => rfl
  | cons entry rest inductionHypothesis =>
    cases entry with
    | stray value => rfl
    | proper rule =>
      cases isDropped : conditions rule with
      | true =>
        simp [isDropped, inductionHypothesis, allMet, Entry.conditionOf, idle rule isDropped]
      | false => simp [isDropped, inductionHypothesis, allMet]

/-- A field without rules that can not be applied gives the same verdicts. -/
theorem Field.validate_without {rules : ValidationRule → Bool} {field : Field}
    (idle : ∀ rule, rules rule = true → ruleCheck field.type rule = .ok none)
    (conditions : ConditionalRule → Bool) (answer : Value) :
    (field.without rules conditions).validate answer = field.validate answer := by
  simp only [Field.validate, FieldContent.validator, Field.without, compileRules_filter idle]
  rfl

/-- A change of fields that shows neither in visibility nor in verdicts. -/
structure Unnoticed (change : Field → Field) (fields : List Field) (answers : Answers) :
    Prop where
  id : ∀ field, (change field).id = field.id
  type : ∀ field, (change field).type = field.type
  conditions : ∀ field,
    allMet fields answers (change field).conditionalRules =
      allMet fields answers field.conditionalRules
  verdict : ∀ field answer, (change field).validate answer = field.validate answer

namespace Unnoticed

variable {change : Field → Field} (unnoticed : Unnoticed change fields answers)
include unnoticed

/-- An id refers to the field that it referred to, changed. -/
theorem referredField?_map (id : String) :
    referredField? (fields.map change) id = (referredField? fields id).map change := by
  simp only [referredField?, ← List.map_reverse, List.find?_map, Function.comp_def, unnoticed.id]

/-- A rule is met as before, since only the id and the type of its trigger count. -/
theorem isMet_map (rule : ConditionalRule) :
    rule.isMet (fields.map change) answers = rule.isMet fields answers := by
  have sameTrigger : rule.triggerField? (fields.map change) =
      (rule.triggerField? fields).map (Option.map change) := by
    unfold ConditionalRule.triggerField?
    split
    · rfl
    · cases rule.trigger.text? with
      | none => rfl
      | some id => simp [Except.map, unnoticed.referredField?_map id]
  simp only [ConditionalRule.isMet, sameTrigger]
  cases rule.triggerField? fields with
  | error fault => rfl
  | ok trigger =>
    cases trigger with
    | none => rfl
    | some field => simp [Except.map, unnoticed.id, unnoticed.type]

/-- So are all rules of a list. -/
theorem allMet_map (entries : List (Entry ConditionalRule)) :
    allMet (fields.map change) answers entries = allMet fields answers entries :=
  allMet_congr fun rule _ => unnoticed.isMet_map rule

/-- The visible fields are those that were visible, changed. -/
theorem visibleAmong_map (some : List Field) :
    visibleAmong (fields.map change) answers (some.map change) =
      (visibleAmong fields answers some).map (List.map change) := by
  induction some with
  | nil => rfl
  | cons field rest inductionHypothesis =>
    simp only [List.map_cons, visibleAmong, Field.isVisible, unnoticed.allMet_map,
      unnoticed.conditions, inductionHypothesis]
    cases allMet fields answers field.conditionalRules with
    | error fault => rfl
    | ok visible =>
      cases visibleAmong fields answers rest with
      | error fault => rfl
      | ok others => cases visible <;> rfl

/-- Changed fields enter the messages that they entered. -/
theorem enterVerdicts_map (errors : Table Value) (some : List Field) :
    enterVerdicts answers errors (some.map change) = enterVerdicts answers errors some := by
  induction some generalizing errors with
  | nil => rfl
  | cons field rest inductionHypothesis =>
    simp only [List.map_cons, enterVerdicts, unnoticed.id, unnoticed.verdict, inductionHypothesis]

/-- A form is evaluated as it was before the change. -/
theorem evaluate_map : evaluate (fields.map change) answers = evaluate fields answers := by
  simp only [evaluate, visibleFields, unnoticed.visibleAmong_map]
  cases visibleAmong fields answers fields with
  | error fault => rfl
  | ok visible =>
    simp [Except.map, validateFields, unnoticed.enterVerdicts_map, Function.comp_def, unnoticed.id]

end Unnoticed

/-- Leaving out rules that can not be applied and conditions that are met anyway is not noticed. -/
theorem unnoticed_without {rules : ValidationRule → Bool} {conditions : ConditionalRule → Bool}
    (idleRules : ∀ rule, rules rule = true → ∀ type, ruleCheck type rule = .ok none)
    (idleConditions : ∀ rule, conditions rule = true → rule.isMet fields answers = .ok true) :
    Unnoticed (Field.without rules conditions) fields answers where
  id _ := rfl
  type _ := rfl
  conditions field := allMet_filter idleConditions field.conditionalRules
  verdict field := Field.validate_without (fun rule drops => idleRules rule drops field.type) conditions

end FormEngine
