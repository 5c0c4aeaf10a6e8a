import FormEngine.Analysis.Report
import FormEngine.Proofs.Result
import FormEngine.Proofs.Value.Spelling

/-!
# What an inspection enters

A rule that is inspected enters one finding at most, and a condition one of its operator and one of
its trigger, or an edge. What each of them says of the rule or the condition is said here once.
-/

namespace FormEngine

variable {ids : List String} {id : String} {report after : Report} {graph built : Dependencies}

/-- What inspecting a rule makes of a report. -/
inductive Report.EntersRule (report : Report) (id : String) (rule : ValidationRule) : Report → Prop where
  | unknownKind {raw : Value} (kind : rule.kind = .unknown raw) (short : raw.hasOverlong = false) :
      report.EntersRule id rule
        { report with unknownRuleKinds := report.unknownRuleKinds.push id raw.text }
  | invalidPattern (kind : rule.kind = .known .pattern)
      (invalid : patternStatus rule.parameter = .invalid) :
      report.EntersRule id rule
        { report with invalidPatterns := report.invalidPatterns.push id rule.parameter.text }
  | nothing {kind : RuleKind} (isKind : rule.kind = .known kind)
      (pattern : kind = .pattern →
        patternStatus rule.parameter = .absent ∨ ∃ node, patternStatus rule.parameter = .valid node) :
      report.EntersRule id rule report

/-- Inspecting rules begins with one of them. -/
theorem inspectRules_cons_eq_ok {entry : Entry ValidationRule} {rest : List (Entry ValidationRule)}
    (inspected : inspectRules id report (entry :: rest) = .ok after) :
    ∃ rule between, entry = .proper rule ∧ report.EntersRule id rule between ∧
      inspectRules id between rest = .ok after := by
  cases entry with
  | stray value => cases inspected
  | proper rule =>
    simp only [inspectRules, Entry.ruleOf, Result.ok_bind] at inspected
    split at inspected
    case h_1 raw kind =>
      obtain ⟨word, spelled, later⟩ := Result.bind_eq_ok_iff.mp inspected
      obtain ⟨short, rfl⟩ := Value.spell_eq_ok_iff.mp spelled
      exact ⟨rule, _, rfl, .unknownKind kind short, later⟩
    case h_2 kind =>
      split at inspected
      · cases inspected
      · next invalid => exact ⟨rule, _, rfl, .invalidPattern kind invalid, inspected⟩
      · next absent => exact ⟨rule, _, rfl, .nothing kind fun _ => .inl absent, inspected⟩
      · next node valid =>
        exact ⟨rule, _, rfl, .nothing kind fun _ => .inr ⟨node, valid⟩, inspected⟩
    case h_3 kind notPattern isKind =>
      exact ⟨rule, _, rfl, .nothing isKind fun same => absurd same notPattern, inspected⟩

/-- What inspecting a trigger makes of a report and of a graph. -/
inductive Report.EntersTrigger (report : Report) (graph : Dependencies) (ids : List String)
    (id : String) (trigger : Value) : Report → Dependencies → Prop where
  | own (isOwn : trigger = .str id) :
      report.EntersTrigger graph ids id trigger
        { report with selfReferences := addOnce report.selfReferences id } graph
  | edge {text : String} (isText : trigger = .str text) (known : text ∈ ids) (different : text ≠ id) :
      report.EntersTrigger graph ids id trigger report (graph.insert text id)
  | missing (keyable : trigger.unkeyable? = none) (foreign : trigger ≠ .str id)
      (unknown : ∀ text ∈ ids, trigger ≠ .str text) :
      report.EntersTrigger graph ids id trigger
        { report with danglingReferences := report.danglingReferences.push id trigger } graph

/-- Inspecting a condition enters what is found of its operator, then what is found of its
trigger. -/
theorem inspectCondition_eq_ok {entry : Entry ConditionalRule}
    (inspected : inspectCondition ids id (report, graph) entry = .ok (after, built)) :
    ∃ rule between, entry = .proper rule ∧
      inspectOperator id report rule.operator = .ok between ∧
      between.EntersTrigger graph ids id rule.trigger after built := by
  cases entry with
  | stray value => cases inspected
  | proper rule =>
    simp only [inspectCondition, Entry.conditionOf, Result.ok_bind] at inspected
    obtain ⟨between, entered, inspected⟩ := Result.bind_eq_ok_iff.mp inspected
    refine ⟨rule, between, rfl, entered, ?_⟩
    split at inspected
    case isTrue own =>
      obtain ⟨rfl, rfl⟩ := Prod.mk.inj (Except.ok.inj inspected)
      exact .own own
    case isFalse foreign =>
      split at inspected
      · cases inspected
      · next keyable =>
        split at inspected
        · next text isText =>
          split at inspected
          case isTrue known =>
            obtain ⟨rfl, rfl⟩ := Prod.mk.inj (Except.ok.inj inspected)
            exact .edge isText (by simpa using known) fun same => foreign (same ▸ isText)
          case isFalse unknown =>
            obtain ⟨rfl, rfl⟩ := Prod.mk.inj (Except.ok.inj inspected)
            refine .missing keyable foreign fun other known same => ?_
            obtain rfl := Value.str.inj (isText.symm.trans same)
            exact unknown (by simpa using known)
        · next notText =>
          obtain ⟨rfl, rfl⟩ := Prod.mk.inj (Except.ok.inj inspected)
          exact .missing keyable foreign fun other _ => notText other

/-- What holds of all conditions of a form holds of those of each field. -/
theorem forall_mem_conditionsOf {fields : List Field}
    {holds : String × Entry ConditionalRule → Prop} :
    (∀ condition ∈ conditionsOf fields, holds condition) ↔
      ∀ field ∈ fields, ∀ entry ∈ field.conditionalRules, holds (field.id, entry) := by
  simp only [conditionsOf, List.mem_flatMap, List.mem_map]
  constructor
  · intro all field inFields entry inField
    exact all _ ⟨field, inFields, entry, inField, rfl⟩
  · rintro all condition ⟨field, inFields, entry, inField, rfl⟩
    exact all field inFields entry inField

end FormEngine
