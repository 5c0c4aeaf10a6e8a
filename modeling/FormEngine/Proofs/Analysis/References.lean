import FormEngine.Proofs.Analysis.Cycle
import FormEngine.Proofs.Analysis.Inspection
import FormEngine.Proofs.Document.WellFormed
import FormEngine.Proofs.Sorting
import FormEngine.Proofs.Table

/-!
# References between the fields of a form

Inspecting the conditions of a form builds the graph in which one field leads to another exactly if
a condition of the other has the first one's id as its trigger. So the report tells of a cycle
exactly if fields show one another in a circle, and it names such fields.
-/

namespace FormEngine

/-- An entry makes a field depend on a trigger: it is a condition on the id of another field. -/
def Entry.DependsOn (entry : Entry ConditionalRule) (ids : List String) (id trigger : String) :
    Prop :=
  trigger ∈ ids ∧ trigger ≠ id ∧ ∃ rule, entry = .proper rule ∧ rule.trigger = .str trigger

/-- An entry makes a field depend on one trigger at most. -/
theorem Entry.DependsOn.trigger_eq {entry : Entry ConditionalRule} {ids : List String}
    {id trigger other : String} (depends : entry.DependsOn ids id trigger)
    (dependsToo : entry.DependsOn ids id other) : trigger = other := by
  obtain ⟨-, -, rule, rfl, isTrigger⟩ := depends
  obtain ⟨-, -, rule, same, isOther⟩ := dependsToo
  cases same
  exact Value.str.inj (isTrigger.symm.trans isOther)

/-- One id shows another: it belongs to a field, and a different field with the other id has a
condition on it. -/
def Shows (fields : List Field) (trigger id : String) : Prop :=
  trigger ∈ fields.map (·.id) ∧ trigger ≠ id ∧
    ∃ field ∈ fields, field.id = id ∧
      ∃ rule, .proper rule ∈ field.conditionalRules ∧ rule.trigger = .str trigger

/-- One id shows another by a condition of some field. -/
theorem shows_iff {fields : List Field} {trigger id : String} :
    Shows fields trigger id ↔
      ∃ entry, (id, entry) ∈ conditionsOf fields ∧
        entry.DependsOn (fields.map (·.id)) id trigger := by
  unfold conditionsOf
  simp only [List.mem_flatMap, List.mem_map]
  constructor
  · rintro ⟨known, different, field, member, rfl, rule, isCondition, isTrigger⟩
    exact ⟨.proper rule, ⟨field, member, _, isCondition, rfl⟩, known, different, rule, rfl, isTrigger⟩
  · rintro ⟨_, ⟨field, member, entry, isCondition, same⟩, known, different, rule, rfl, isTrigger⟩
    obtain ⟨rfl, rfl⟩ := Prod.mk.inj same
    exact ⟨known, different, field, member, rfl, rule, isCondition, isTrigger⟩

variable {ids : List String} {id : String} {report after : Report} {graph built : Dependencies}

/-- Inspecting a condition enters the edge that it asks for, or none if it asks for none. -/
theorem graph_of_inspectCondition {entry : Entry ConditionalRule}
    (inspected : inspectCondition ids id (report, graph) entry = .ok (after, built)) :
    (∃ trigger, entry.DependsOn ids id trigger ∧ built = graph.insert trigger id) ∨
      ((∀ trigger, ¬entry.DependsOn ids id trigger) ∧ built = graph) := by
  obtain ⟨rule, between, rfl, -, entered⟩ := inspectCondition_eq_ok inspected
  cases entered with
  | own isOwn =>
    refine .inr ⟨?_, rfl⟩
    rintro other ⟨-, different, rule, same, isTrigger⟩
    cases same
    exact different (Value.str.inj (isTrigger.symm.trans isOwn))
  | edge isText known different => exact .inl ⟨_, ⟨known, different, rule, rfl, isText⟩, rfl⟩
  | missing _ _ unknown =>
    refine .inr ⟨?_, rfl⟩
    rintro other ⟨known, -, rule, same, isTrigger⟩
    cases same
    exact unknown other known isTrigger

/-- Inspecting conditions enters the edges that they ask for, and no others. -/
theorem edge_of_inspectConditions {conditions : List (String × Entry ConditionalRule)}
    (inspected : inspectConditions ids (report, graph) conditions = .ok (after, built))
    {source target : String} :
    built.Edge source target ↔
      graph.Edge source target ∨
        ∃ entry, (target, entry) ∈ conditions ∧ entry.DependsOn ids target source := by
  induction conditions generalizing report graph with
  | nil =>
    obtain ⟨-, rfl⟩ := Prod.mk.inj (Except.ok.inj inspected)
    simp
  | cons condition rest inductionHypothesis =>
    obtain ⟨id, entry⟩ := condition
    obtain ⟨⟨between, middle⟩, first, later⟩ := Result.bind_eq_ok_iff.mp inspected
    rw [inductionHypothesis later]
    have step : middle.Edge source target ↔
        graph.Edge source target ∨ (target = id ∧ entry.DependsOn ids id source) := by
      rcases graph_of_inspectCondition first with ⟨trigger, depends, rfl⟩ | ⟨free, rfl⟩
      · rw [Dependencies.edge_insert_iff]
        refine or_congr_right ⟨?_, ?_⟩
        · rintro ⟨rfl, rfl⟩
          exact ⟨rfl, depends⟩
        · rintro ⟨rfl, others⟩
          exact ⟨depends.trigger_eq others, rfl⟩
      · simp [free]
    rw [step]
    constructor
    · rintro ((before | ⟨rfl, depends⟩) | ⟨other, member, depends⟩)
      · exact .inl before
      · exact .inr ⟨entry, .head _, depends⟩
      · exact .inr ⟨other, .tail _ member, depends⟩
    · rintro (before | ⟨other, member, depends⟩)
      · exact .inl (.inl before)
      · rcases List.mem_cons.mp member with same | later
        · obtain ⟨rfl, rfl⟩ := Prod.mk.inj same
          exact .inl (.inr ⟨rfl, depends⟩)
        · exact .inr ⟨other, later, depends⟩

/-- Inspecting conditions of known ids enters no others into the graph. -/
theorem ids_of_inspectConditions {conditions : List (String × Entry ConditionalRule)}
    (inspected : inspectConditions ids (report, graph) conditions = .ok (after, built))
    (owners : ∀ condition ∈ conditions, condition.1 ∈ ids) (known : graph.ids ⊆ ids) :
    built.ids ⊆ ids := by
  induction conditions generalizing report graph with
  | nil =>
    obtain ⟨-, rfl⟩ := Prod.mk.inj (Except.ok.inj inspected)
    exact known
  | cons condition rest inductionHypothesis =>
    obtain ⟨⟨between, middle⟩, first, later⟩ := Result.bind_eq_ok_iff.mp inspected
    refine inductionHypothesis later (fun other member => owners other (.tail _ member)) ?_
    rcases graph_of_inspectCondition first with ⟨trigger, depends, rfl⟩ | ⟨-, rfl⟩
    · intro id member
      rcases Dependencies.mem_ids_insert.mp member with rfl | rfl | before
      · exact depends.1
      · exact owners condition (.head _)
      · exact known before
    · exact known

/-- The graph of a form: its edges lead from each id to those that it shows. -/
theorem edge_iff_shows {fields : List Field}
    (inspected : inspectConditions (fields.map (·.id)) (report, {}) (conditionsOf fields) =
      .ok (after, built)) {source target : String} :
    built.Edge source target ↔ Shows fields source target := by
  rw [edge_of_inspectConditions inspected, shows_iff]
  simp [Dependencies.Edge, Dependencies.successors]

end FormEngine
