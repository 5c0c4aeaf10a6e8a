import FormEngine.Proofs.Answer
import FormEngine.Visibility

/-!
# Where visibility can not be decided

A rule is decided for all answers and comparison values but two kinds. A comparison of numbers
fails on an integer past the finite range, on either side, and the search for the text of a
comparison value fails if that holds an overlong integer. Visibility fails exactly where all rules
before such a one are met.
-/

namespace FormEngine

/-- How a rule fails on an answer to its trigger. -/
inductive ConditionalRule.StumblesOver (rule : ConditionalRule) (answer : Value) : Fault → Prop
  | comparing
      (operator : rule.operator = .known .greaterThan ∨ rule.operator = .known .lessThan)
      (past : answer.IsPastRange ∨ rule.comparison.IsPastRange) :
      rule.StumblesOver answer .integerToFloat
  | searching (text : String) (operator : rule.operator = .known .contains)
      (isText : answer = .str text) (overlong : rule.comparison.hasOverlong = true) :
      rule.StumblesOver answer .integerUnwritten

/-- Two answers can not be compared if one of them can not be taken for a number. -/
theorem Value.compareNumbers_eq_error_iff {holds : Double → Double → Bool}
    {answer comparison : Value} {fault : Fault} :
    answer.compareNumbers holds comparison = .error fault ↔
      (answer.IsPastRange ∨ comparison.IsPastRange) ∧ fault = .integerToFloat := by
  rw [compareNumbers, Result.bind_eq_error_iff]
  constructor
  · rintro (fails | ⟨left, -, fails⟩)
    · obtain ⟨past, rfl⟩ := number?_eq_error_iff.mp fails
      exact ⟨.inl past, rfl⟩
    · rcases Result.bind_eq_error_iff.mp fails with fails | ⟨right, -, fails⟩
      · obtain ⟨past, rfl⟩ := number?_eq_error_iff.mp fails
        exact ⟨.inr past, rfl⟩
      · cases left <;> cases right <;> cases fails
  · rintro ⟨past, rfl⟩
    cases readLeft : answer.number? with
    | error fault => exact .inl (by rw [(number?_eq_error_iff.mp readLeft).2])
    | ok left =>
      have near : ¬answer.IsPastRange := fun past => by
        rw [number?_eq_error_iff.mpr ⟨past, rfl⟩] at readLeft
        cases readLeft
      have fails := number?_eq_error_iff.mpr ⟨past.resolve_left near, rfl⟩
      exact .inr ⟨left, rfl, by rw [fails]; rfl⟩

/-- The text of a comparison value is looked for in text answers only. -/
theorem Value.containsValue_eq_error_iff {answer needle : Value} {fault : Fault} :
    answer.containsValue needle = .error fault ↔
      (∃ text, answer = .str text) ∧ needle.hasOverlong = true ∧ fault = .integerUnwritten := by
  cases answer with
  | str text => simp [containsValue, Result.bind_eq_error_iff, spell_eq_error_iff]
  | _ => simp [containsValue]

/-- A rule fails on an answer exactly if it stumbles over it. -/
theorem ConditionalRule.holds_eq_error_iff {rule : ConditionalRule} {answer : Value}
    {type : Option FieldType} {fault : Fault} :
    rule.holds answer type = .error fault ↔ rule.StumblesOver answer fault := by
  have inversion : rule.StumblesOver answer fault ↔
      (rule.operator = .known .greaterThan ∨ rule.operator = .known .lessThan) ∧
          (answer.IsPastRange ∨ rule.comparison.IsPastRange) ∧ fault = .integerToFloat ∨
        rule.operator = .known .contains ∧ (∃ text, answer = .str text) ∧
          rule.comparison.hasOverlong = true ∧ fault = .integerUnwritten := by
    constructor
    · rintro (⟨operator, past⟩ | ⟨text, operator, isText, overlong⟩)
      · exact .inl ⟨operator, past, rfl⟩
      · exact .inr ⟨operator, ⟨text, isText⟩, overlong, rfl⟩
    · rintro (⟨operator, past, rfl⟩ | ⟨operator, ⟨text, isText⟩, overlong, rfl⟩)
      · exact .comparing operator past
      · exact .searching text operator isText overlong
  rw [inversion]
  cases named : rule.operator with
  | unknown raw => simp [holds, named]
  | known operator =>
    cases operator <;>
      simp [holds, named, Value.containsValue_eq_error_iff, Value.compareNumbers_eq_error_iff]

/-- A rule on a field that is there, over whose answer it stumbles. -/
def ConditionalRule.Stumbles (fields : List Field) (answers : Answers) (fault : Fault)
    (rule : ConditionalRule) : Prop :=
  ∃ id trigger, rule.trigger = .str id ∧ referredField? fields id = some trigger ∧
    rule.StumblesOver ((answers.get? trigger.id).getD (.str "")) fault

variable {fields : List Field} {answers : Answers} {fault : Fault}

/-- An id that triggers a rule is looked up among the fields. -/
theorem ConditionalRule.triggerField?_of_text {rule : ConditionalRule} {id : String}
    (isText : rule.trigger = .str id) :
    rule.triggerField? fields = .ok (referredField? fields id) := by
  simp [triggerField?, isText, Value.unkeyable?, Value.text?]

/-- A rule with an id as its trigger fails exactly if it stumbles. -/
theorem ConditionalRule.isMet_eq_error_iff {rule : ConditionalRule} {id : String}
    (isText : rule.trigger = .str id) :
    rule.isMet fields answers = .error fault ↔ rule.Stumbles fields answers fault := by
  rw [isMet, triggerField?_of_text isText, Result.ok_bind]
  cases found : referredField? fields id with
  | none => simp [Stumbles, isText, found]
  | some trigger => simp [Stumbles, isText, found, holds_eq_error_iff]

/-- Going through rules fails at the first that stumbles, if all before it are met. -/
theorem allMet_eq_error_iff {rules : List ConditionalRule}
    (triggers : ∀ rule ∈ rules, ∃ id, rule.trigger = .str id) :
    allMet fields answers (rules.map .proper) = .error fault ↔
      ComesTo (fun rule => rule.isMet fields answers = .ok true)
        (ConditionalRule.Stumbles fields answers fault) rules := by
  induction rules with
  | nil => simp [allMet]
  | cons rule rest inductionHypothesis =>
    obtain ⟨id, isText⟩ := triggers rule (.head _)
    have later := inductionHypothesis fun other member => triggers other (.tail _ member)
    rw [comesTo_cons, ← rule.isMet_eq_error_iff isText, ← later, List.map_cons, allMet,
      Entry.conditionOf, Result.ok_bind, Result.bind_eq_error_iff]
    refine or_congr_right ⟨?_, fun ⟨met, fails⟩ => ⟨true, met, fails⟩⟩
    rintro ⟨met, decided, fails⟩
    cases met with
    | false => cases fails
    | true => exact ⟨decided, fails⟩

/-- Going through rules finds them all met exactly if each of them is. -/
theorem allMet_eq_true_iff {rules : List ConditionalRule} :
    allMet fields answers (rules.map .proper) = .ok true ↔
      ∀ rule ∈ rules, rule.isMet fields answers = .ok true := by
  induction rules with
  | nil => simp [allMet]
  | cons rule rest inductionHypothesis =>
    rw [List.forall_mem_cons, ← inductionHypothesis, List.map_cons, allMet, Entry.conditionOf,
      Result.ok_bind, Result.bind_eq_ok_iff]
    simp

/-- A field whose rules have ids as triggers is visible or not, except where a rule, all before it
being met, compares a number past the finite range or looks for the text of a comparison value that
has none: there the failure is that of the conversion. -/
theorem isVisible_eq_error_iff (field : Field) (fields : List Field) (answers : Answers)
    (rules : List ConditionalRule) (proper : field.conditionalRules = rules.map .proper)
    (triggers : ∀ rule ∈ rules, ∃ id, rule.trigger = .str id) :
    (field.isVisible fields answers = .ok true ↔
      ∀ rule ∈ rules, rule.isMet fields answers = .ok true) ∧
    ∀ fault, field.isVisible fields answers = .error fault ↔
      ComesTo (fun rule => rule.isMet fields answers = .ok true)
        (ConditionalRule.Stumbles fields answers fault) rules := by
  rw [Field.isVisible, proper]
  exact ⟨allMet_eq_true_iff, fun _ => allMet_eq_error_iff triggers⟩

/-- The least number past the finite range can not be compared, not even with one of two digits. -/
theorem isVisible_eq_error_at_rangeEnd :
    let age : Field := { id := "age", type := .number, label := .str "Age" }
    let adult : ConditionalRule :=
      { trigger := .str "age", operator := .known .greaterThan, comparison := .int 17 }
    let licence : Field :=
      { id := "licence", type := .text, label := .str "Licence",
        conditionalRules := [.proper adult] }
    licence.conditionalRules = [adult].map .proper ∧
      (∀ rule ∈ [adult], ∃ id, rule.trigger = .str id) ∧
      licence.isVisible [age, licence] ⟨[("age", .int Double.rangeEnd)]⟩ =
        .error .integerToFloat := by
  intro age adult licence
  have triggers : ∀ rule ∈ [adult], ∃ id, rule.trigger = .str id := by simp [adult]
  refine ⟨rfl, triggers, ((isVisible_eq_error_iff licence _ _ [adult] rfl triggers).2 _).mpr ?_⟩
  refine ⟨[], adult, [], rfl, List.forall_mem_nil _, "age", age, rfl, rfl, ?_⟩
  exact .comparing (.inl rfl) (.inl ⟨Double.rangeEnd, rfl, Nat.le_of_eq (Int.natAbs_natCast _).symm⟩)

end FormEngine
