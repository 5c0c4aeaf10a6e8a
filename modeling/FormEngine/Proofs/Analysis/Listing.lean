import FormEngine.Proofs.Analysis.Inspection
import FormEngine.Proofs.Field.Broken
import FormEngine.Proofs.Table

/-!
# What a report lists

A report lists broken rules and conditions under the id of their field: kinds and operators that are
unknown, parameters that should be patterns and are none, and triggers that are the id of no field.
Each list is in the order of the fields and, within a field, in that of its rules.
-/

namespace FormEngine

variable {ids : List String} {id : String} {report before between after : Report}

/-- The rules of several fields that share an id, or of one, are listed behind what was. -/
structure Report.ListsRules (before after : Report) (rules : String → List ValidationRule) :
    Prop where
  unknownKinds : ∀ id, after.unknownRuleKinds.listed id = before.unknownRuleKinds.listed id ++
    (rules id).filterMap fun rule => rule.kind.unknown?.map Value.text
  invalidPatterns : ∀ id, after.invalidPatterns.listed id = before.invalidPatterns.listed id ++
    ((rules id).filter (·.hasInvalidPattern)).map (·.parameter.text)
  unknownOperators : after.unknownOperators = before.unknownOperators
  danglingReferences : after.danglingReferences = before.danglingReferences

namespace Report.ListsRules

variable {rules more : String → List ValidationRule}

theorem none (report : Report) : report.ListsRules report fun _ => [] :=
  ⟨by simp, by simp, rfl, rfl⟩

theorem trans (first : before.ListsRules between rules) (second : between.ListsRules after more) :
    before.ListsRules after fun id => rules id ++ more id where
  unknownKinds id := by simp [second.unknownKinds, first.unknownKinds]
  invalidPatterns id := by simp [second.invalidPatterns, first.invalidPatterns]
  unknownOperators := second.unknownOperators.trans first.unknownOperators
  danglingReferences := second.danglingReferences.trans first.danglingReferences

theorem congr (lists : before.ListsRules after rules) (same : ∀ id, rules id = more id) :
    before.ListsRules after more :=
  funext same ▸ lists

end Report.ListsRules

/-- A rule that is inspected is listed under the id if it is broken. -/
theorem Report.EntersRule.listsRules {rule : ValidationRule}
    (enters : report.EntersRule id rule after) :
    report.ListsRules after fun other => if id = other then [rule] else [] := by
  cases enters with
  | unknownKind kind short =>
    refine ⟨fun other => ?_, fun other => ?_, rfl, rfl⟩
    · rw [Table.listed_push]
      split <;> simp [kind]
    · split <;> simp [ValidationRule.hasInvalidPattern, kind]
  | invalidPattern kind invalid =>
    have hasInvalid := ValidationRule.hasInvalidPattern_iff.mpr ⟨kind, invalid⟩
    refine ⟨fun other => ?_, fun other => ?_, rfl, rfl⟩
    · split <;> simp [kind]
    · rw [Table.listed_push]
      split <;> simp [hasInvalid]
  | @nothing kind isKind pattern =>
    have hasNone : ¬rule.hasInvalidPattern = true := by
      intro hasInvalid
      obtain ⟨isPattern, invalid⟩ := ValidationRule.hasInvalidPattern_iff.mp hasInvalid
      rcases pattern (Recognised.known.inj (isKind.symm.trans isPattern)) with absent | ⟨node, valid⟩
      · cases invalid.symm.trans absent
      · cases invalid.symm.trans valid
    refine ⟨fun other => ?_, fun other => ?_, rfl, rfl⟩
    · split <;> simp [isKind]
    · split <;> simp [hasNone]

/-- Inspecting the rules of a field lists those that are broken under its id. -/
theorem listsRules_of_inspectRules {entries : List (Entry ValidationRule)}
    (inspected : inspectRules id report entries = .ok after) :
    report.ListsRules after fun other =>
      if id = other then entries.filterMap Entry.proper? else [] := by
  induction entries generalizing report with
  | nil =>
    obtain rfl := Except.ok.inj inspected
    simpa using Report.ListsRules.none report
  | cons entry rest inductionHypothesis =>
    obtain ⟨rule, between, rfl, enters, later⟩ := inspectRules_cons_eq_ok inspected
    refine (enters.listsRules.trans (inductionHypothesis later)).congr fun other => ?_
    split <;> simp

/-- Inspecting fields lists the broken rules of those that have an id under that id. -/
theorem listsRules_of_inspectFields {fields : List Field}
    (inspected : fields.foldlM inspectField report = .ok after) :
    report.ListsRules after fun id => (fields.filter (·.id == id)).flatMap Field.properRules := by
  induction fields generalizing report with
  | nil =>
    obtain rfl := Except.ok.inj inspected
    exact Report.ListsRules.none report
  | cons field rest inductionHypothesis =>
    rw [List.foldlM_cons] at inspected
    obtain ⟨between, first, later⟩ := Result.bind_eq_ok_iff.mp inspected
    obtain ⟨labelEmpty, -, counted⟩ := Result.bind_eq_ok_iff.mp first
    have inspectedRules := listsRules_of_inspectRules counted
    have here : report.ListsRules between fun other =>
        if field.id = other then field.properRules else [] :=
      ⟨inspectedRules.unknownKinds, inspectedRules.invalidPatterns,
        inspectedRules.unknownOperators, inspectedRules.danglingReferences⟩
    refine (here.trans (inductionHypothesis later)).congr fun id => ?_
    by_cases same : field.id = id <;> simp [same]

/-- Conditions are listed behind what was, and the trigger of each can be looked up. -/
structure Report.ListsConditions (ids : List String) (before after : Report)
    (conditions : String → List ConditionalRule) : Prop where
  unknownOperators : ∀ id, after.unknownOperators.listed id = before.unknownOperators.listed id ++
    (conditions id).filterMap fun rule => rule.operator.unknown?.map Value.text
  danglingReferences : ∀ id,
    after.danglingReferences.listed id = before.danglingReferences.listed id ++
      ((conditions id).filter (·.dangles ids)).map (·.trigger)
  unknownKinds : after.unknownRuleKinds = before.unknownRuleKinds
  invalidPatterns : after.invalidPatterns = before.invalidPatterns
  keyable : ∀ id, ∀ rule ∈ conditions id, rule.trigger.unkeyable? = none

namespace Report.ListsConditions

variable {conditions more : String → List ConditionalRule}

theorem none (report : Report) : report.ListsConditions ids report fun _ => [] :=
  ⟨by simp, by simp, rfl, rfl, by simp⟩

theorem trans (first : ListsConditions ids before between conditions)
    (second : ListsConditions ids between after more) :
    ListsConditions ids before after fun id => conditions id ++ more id where
  unknownOperators id := by simp [second.unknownOperators, first.unknownOperators]
  danglingReferences id := by simp [second.danglingReferences, first.danglingReferences]
  unknownKinds := second.unknownKinds.trans first.unknownKinds
  invalidPatterns := second.invalidPatterns.trans first.invalidPatterns
  keyable id rule member :=
    (List.mem_append.mp member).elim (first.keyable id rule) (second.keyable id rule)

theorem congr (lists : ListsConditions ids before after conditions)
    (same : ∀ id, conditions id = more id) : ListsConditions ids before after more :=
  funext same ▸ lists

end Report.ListsConditions

/-- Inspecting the operator of a condition lists it if it is unknown. -/
theorem inspectOperator_eq_ok {operator : Recognised Operator}
    (inspected : inspectOperator id report operator = .ok after) :
    ∃ operators, after = { report with unknownOperators := operators } ∧
      ∀ other, operators.listed other = report.unknownOperators.listed other ++
        if id = other then (operator.unknown?.map Value.text).toList else [] := by
  cases operator with
  | known word =>
    obtain rfl := Except.ok.inj inspected
    exact ⟨_, rfl, by simp⟩
  | unknown raw =>
    obtain ⟨word, spelled, same⟩ := Result.bind_eq_ok_iff.mp inspected
    obtain ⟨-, rfl⟩ := Value.spell_eq_ok_iff.mp spelled
    obtain rfl := Except.ok.inj same
    exact ⟨_, rfl, fun other => Table.listed_push ..⟩

/-- A trigger that is inspected is listed under the id if it is none of the ids. -/
theorem Report.EntersTrigger.listed {rule : ConditionalRule} {graph built : Dependencies}
    (known : id ∈ ids) (enters : report.EntersTrigger graph ids id rule.trigger after built) :
    rule.trigger.unkeyable? = none ∧
      ∃ selves dangling,
        after = { report with selfReferences := selves, danglingReferences := dangling } ∧
        ∀ other, dangling.listed other = report.danglingReferences.listed other ++
          if id = other then if rule.dangles ids then [rule.trigger] else [] else [] := by
  cases enters with
  | own isOwn =>
    have found := ConditionalRule.dangles_eq_false isOwn known
    exact ⟨by rw [isOwn]; rfl, _, _, rfl, by simp [found]⟩
  | edge isText isKnown =>
    have found := ConditionalRule.dangles_eq_false isText isKnown
    exact ⟨by rw [isText]; rfl, _, _, rfl, by simp [found]⟩
  | missing keyable _ unknown =>
    have dangles := ConditionalRule.dangles_iff.mpr unknown
    exact ⟨keyable, _, _, rfl, by simp [Table.listed_push, dangles]⟩

/-- Inspecting a condition of a field lists it under the id of the field as far as it is broken. -/
theorem inspectCondition_lists {entry : Entry ConditionalRule} {graph built : Dependencies}
    (known : id ∈ ids)
    (inspected : inspectCondition ids id (report, graph) entry = .ok (after, built)) :
    ∃ rule, entry = .proper rule ∧
      report.ListsConditions ids after fun other => if id = other then [rule] else [] := by
  obtain ⟨rule, operated, rfl, entered, enters⟩ := inspectCondition_eq_ok inspected
  obtain ⟨keyable, selves, dangling, rfl, listed⟩ := enters.listed known
  obtain ⟨operators, rfl, listedToo⟩ := inspectOperator_eq_ok entered
  refine ⟨rule, rfl, fun other => ?_, fun other => ?_, rfl, rfl, fun other found member => ?_⟩
  · rw [listedToo]
    split
    · cases operator : rule.operator <;> simp [operator]
    · simp
  · rw [listed]
    split
    · cases dangles : rule.dangles ids <;> simp [dangles]
    · simp
  · split at member
    · rwa [List.mem_singleton.mp member]
    · cases member

/-- Inspecting conditions of fields lists them as far as they are broken. -/
theorem listsConditions_of_inspectConditions {conditions : List (String × Entry ConditionalRule)}
    {graph built : Dependencies} (known : ∀ condition ∈ conditions, condition.1 ∈ ids)
    (inspected : inspectConditions ids (report, graph) conditions = .ok (after, built)) :
    report.ListsConditions ids after fun id =>
      (conditions.filter (·.1 == id)).filterMap (·.2.proper?) := by
  induction conditions generalizing report graph with
  | nil =>
    obtain ⟨rfl, -⟩ := Prod.mk.inj (Except.ok.inj inspected)
    exact Report.ListsConditions.none report
  | cons condition rest inductionHypothesis =>
    obtain ⟨id, entry⟩ := condition
    obtain ⟨knownHere, knownLater⟩ := List.forall_mem_cons.mp known
    obtain ⟨⟨between, graph⟩, first, later⟩ := Result.bind_eq_ok_iff.mp inspected
    obtain ⟨rule, rfl, here⟩ := inspectCondition_lists knownHere first
    refine (here.trans (inductionHypothesis knownLater later)).congr fun other => ?_
    by_cases same : id = other <;> simp [same]

/-- The conditions of the fields with an id, in order. -/
theorem filterMap_conditionsOf (fields : List Field) (id : String) :
    ((conditionsOf fields).filter (·.1 == id)).filterMap (·.2.proper?) =
      (fields.filter (·.id == id)).flatMap Field.properConditions := by
  induction fields with
  | nil => rfl
  | cons field rest inductionHypothesis =>
    rw [conditionsOf, List.flatMap_cons, ← conditionsOf, List.filter_append, List.filterMap_append,
      inductionHypothesis]
    by_cases same : field.id = id <;>
      simp [same, Field.properConditions, List.filter_map, Function.comp_def, List.filterMap_map]

/-- What is listed under an id is what is broken among certain rules and conditions. -/
structure Report.Lists (report : Report) (ids : List String) (id : String)
    (rules : List ValidationRule) (conditions : List ConditionalRule) : Prop where
  unknownKinds : report.unknownRuleKinds.listed id =
    rules.filterMap fun rule => rule.kind.unknown?.map Value.text
  invalidPatterns : report.invalidPatterns.listed id =
    (rules.filter (·.hasInvalidPattern)).map (·.parameter.text)
  unknownOperators : report.unknownOperators.listed id =
    conditions.filterMap fun rule => rule.operator.unknown?.map Value.text
  danglingReferences : report.danglingReferences.listed id =
    (conditions.filter (·.dangles ids)).map (·.trigger)

/-- A report lists what is broken in the fields with an id, and there is one only if every trigger
can be looked up. -/
theorem lists_of_analyzeFields {title : Value} {fields : List Field}
    (analyzed : analyzeFields title fields = .ok report) :
    (∀ id, report.Lists (fields.map (·.id)) id
      ((fields.filter (·.id == id)).flatMap Field.properRules)
      ((fields.filter (·.id == id)).flatMap Field.properConditions)) ∧
    ∀ field ∈ fields, ∀ rule ∈ field.properConditions, rule.trigger.unkeyable? = none := by
  simp only [analyzeFields, Result.bind_eq_ok_iff] at analyzed
  obtain ⟨contiguous, -, counted, inspectedFields, ⟨between, graph⟩, inspected, warnings, -, same⟩ :=
    analyzed
  obtain rfl := Except.ok.inj same
  have known : ∀ condition ∈ conditionsOf fields, condition.1 ∈ fields.map (·.id) :=
    forall_mem_conditionsOf.mpr fun field member _ _ => List.mem_map_of_mem member
  have rules := listsRules_of_inspectFields inspectedFields
  have conditions := (listsConditions_of_inspectConditions known inspected).congr
    (filterMap_conditionsOf fields)
  refine ⟨fun id => ⟨?_, ?_, ?_, ?_⟩, fun field member rule inField => ?_⟩
  · simpa [conditions.unknownKinds] using rules.unknownKinds id
  · simpa [conditions.invalidPatterns] using rules.invalidPatterns id
  · simpa [rules.unknownOperators] using conditions.unknownOperators id
  · simpa [rules.danglingReferences] using conditions.danglingReferences id
  · refine conditions.keyable field.id rule (List.mem_flatMap.mpr ⟨field, ?_, inField⟩)
    simpa using member

end FormEngine
