import FormEngine.Proofs.Analysis.Listing
import FormEngine.Proofs.Analysis.Report
import FormEngine.Proofs.Inert

/-!
# What is listed as broken is inert

A form without its broken rules and conditions is evaluated as the form is, whatever the answers
are, except that a condition stays whose trigger can not be looked up: to look it up is a fault,
which would be lost. Where a form has a report, there is no such condition, and the report lists
just what is left out.
-/

namespace FormEngine

variable {fields : List Field} {report : Report} {ids : List String} {id : String}

/-- The broken validation rules of the fields with an id, in order. -/
def brokenRules (fields : List Field) (id : String) : List ValidationRule :=
  (fields.filter (·.id == id)).flatMap fun field => field.properRules.filter (·.isBroken)

/-- The inert conditions of the fields with an id, in order. -/
def inertConditions (fields : List Field) (id : String) : List ConditionalRule :=
  (fields.filter (·.id == id)).flatMap fun field =>
    field.properConditions.filter (·.isInert (fields.map (·.id)))

/-- The fields of a form without their broken rules and their inert conditions. -/
def withoutInert (fields : List Field) : List Field :=
  fields.map (Field.without ValidationRule.isBroken (ConditionalRule.isInert (fields.map (·.id))))

/-- What is listed of rules and conditions is listed of the broken ones among them. -/
theorem Report.Lists.broken {rules : List ValidationRule} {conditions : List ConditionalRule}
    (lists : report.Lists ids id rules conditions) :
    report.Lists ids id (rules.filter (·.isBroken)) (conditions.filter (·.isBroken ids)) where
  unknownKinds := by
    rw [lists.unknownKinds, List.filterMap_filter]
    refine List.filterMap_congr fun rule _ => ?_
    cases kind : rule.kind <;> simp [ValidationRule.isBroken, kind]
  invalidPatterns := by
    rw [lists.invalidPatterns, List.filter_filter]
    congr 2
    funext rule
    cases invalid : rule.hasInvalidPattern <;> simp [ValidationRule.isBroken, invalid]
  unknownOperators := by
    rw [lists.unknownOperators, List.filterMap_filter]
    refine List.filterMap_congr fun rule _ => ?_
    cases operator : rule.operator <;> simp [ConditionalRule.isBroken, operator]
  danglingReferences := by
    rw [lists.danglingReferences, List.filter_filter]
    congr 2
    funext rule
    cases dangles : rule.dangles ids <;> simp [ConditionalRule.isBroken, dangles]

/-- A form has the same outcome without its broken rules and its inert conditions, for all answers.
Where the form has a report, every broken condition is inert, and what the report lists under an id
is what is left out of the fields with this id, in order. -/
theorem evaluate_withoutInert (title : Value) (fields : List Field) :
    (∀ answers, evaluate (withoutInert fields) answers = evaluate fields answers) ∧
      ∀ report, analyzeFields title fields = .ok report →
        (∀ field ∈ fields, ∀ rule ∈ field.properConditions,
          rule.isInert (fields.map (·.id)) = rule.isBroken (fields.map (·.id))) ∧
        ∀ id, report.Lists (fields.map (·.id)) id (brokenRules fields id)
          (inertConditions fields id) := by
  refine ⟨fun answers => ?_, fun report analyzed => ?_⟩
  · exact (unnoticed_without (fun rule => rule.ruleCheck_of_isBroken)
      fun rule isInert => rule.isMet_of_isInert isInert answers).evaluate_map
  · obtain ⟨lists, keyable⟩ := lists_of_analyzeFields analyzed
    have inert : ∀ field ∈ fields, ∀ rule ∈ field.properConditions,
        rule.isInert (fields.map (·.id)) = rule.isBroken (fields.map (·.id)) := by
      intro field member rule inField
      simp [ConditionalRule.isInert, keyable field member rule inField]
    refine ⟨inert, fun id => ?_⟩
    have sameConditions : inertConditions fields id =
        ((fields.filter (·.id == id)).flatMap Field.properConditions).filter
          (·.isBroken (fields.map (·.id))) := by
      rw [List.filter_flatMap]
      refine List.flatMap_congr fun field isField => List.filter_congr fun rule inField => ?_
      exact inert field (List.mem_filter.mp isField).1 rule inField
    have sameRules : brokenRules fields id =
        ((fields.filter (·.id == id)).flatMap Field.properRules).filter (·.isBroken) := by
      rw [List.filter_flatMap]
      rfl
    rw [sameConditions, sameRules]
    exact (lists id).broken

/-- Two fields of one id with a rule of an unknown kind, two patterns, of which one is none, a
condition by an unknown operator on a field that is not there, and one on the field itself. -/
def brokenFields : List Field :=
  [{ type := .text, label := .str "Code", id := "code", order := .int 0,
     validationRules := [.proper { kind := .unknown (.str "luhn") },
       .proper { kind := .known .pattern, parameter := .str "(" },
       .proper { kind := .known .pattern, parameter := .str "^a" }],
     conditionalRules := [.proper { trigger := .str "gone", operator := .unknown (.str "like") }] },
   { type := .text, label := .str "Code", id := "code", order := .int 1,
     conditionalRules := [.proper { trigger := .str "code", operator := .known .notEmpty }] }]

theorem isAnalysable_brokenFields : ∀ field ∈ brokenFields, field.IsAnalysable := by
  simp only [brokenFields, List.forall_mem_cons, List.not_mem_nil, false_implies, implies_true,
    and_true]
  refine ⟨⟨⟨_, rfl⟩, ⟨_, rfl⟩, ?_, ?_⟩, ⟨⟨_, rfl⟩, ⟨_, rfl⟩, nofun, ?_⟩⟩
  · simp only [List.forall_mem_cons, List.not_mem_nil, false_implies, implies_true, and_true]
    exact ⟨⟨_, rfl, by decide, rfl⟩, ⟨_, rfl, by decide +kernel, trivial⟩,
      ⟨_, rfl, by decide +kernel, trivial⟩⟩
  · simpa using ⟨⟨_, rfl⟩, rfl⟩
  · simpa using ⟨⟨_, rfl⟩, trivial⟩

/-- All of them are listed but the pattern that is one and the condition on the field itself, which
are held against the answer with or without the others. -/
theorem evaluate_withoutInert_brokenFields :
    ∃ report, analyzeFields (.str "") brokenFields = .ok report ∧
      report.unknownRuleKinds.listed "code" = ["luhn"] ∧
      report.invalidPatterns.listed "code" = ["("] ∧
      report.unknownOperators.listed "code" = ["like"] ∧
      report.danglingReferences.listed "code" = [.str "gone"] ∧
      (evaluate (withoutInert brokenFields) ⟨[("code", .str "b")]⟩).toOption =
        some ⟨["code"], ⟨[("code", .str "Code is invalid")]⟩⟩ := by
  obtain ⟨sameOutcome, tells⟩ := evaluate_withoutInert (.str "") brokenFields
  obtain ⟨report, analyzed⟩ := exists_analyzeFields (.str "") isAnalysable_brokenFields
  obtain ⟨kinds, patterns, operators, references⟩ := (tells report analyzed).2 "code"
  refine ⟨report, analyzed, kinds.trans (by decide +kernel), patterns.trans (by decide +kernel),
    operators.trans (by decide +kernel), references.trans (by decide +kernel), ?_⟩
  rw [sameOutcome]
  decide +kernel

/-- A field with a condition on a list, which is the id of no field. -/
def unkeyableTrigger : Field where
  type := .text
  label := .str "Code"
  id := "code"
  conditionalRules := [.proper { trigger := .list [.str "gone"] }]

/-- Leaving out all broken conditions is noticed where a trigger can not be looked up: the form has
no outcome with the condition and one without it. -/
theorem evaluate_without_unkeyableTrigger :
    ¬∀ fields answers,
      evaluate (fields.map (Field.without ValidationRule.isBroken
        (ConditionalRule.isBroken (fields.map (·.id))))) answers = evaluate fields answers := by
  intro unnoticed
  have same := unnoticed [unkeyableTrigger] {}
  have refused : evaluate [unkeyableTrigger] {} = .error (.notKeyable "list") := rfl
  rw [refused] at same
  cases same

end FormEngine
