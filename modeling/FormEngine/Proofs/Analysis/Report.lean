import FormEngine.Proofs.Analysis.Listing
import FormEngine.Proofs.Analysis.References
import FormEngine.Proofs.Analysis.Trail
import FormEngine.Proofs.Repetition

/-!
# The report on a form

Fields with what their parts promise can be analysed: every step of the analysis gives something.
Of fields whose orders, rules and triggers are what they should be, only labels that are no texts and
words that can not be written stop it. Whatever fields are analysed, the report tells of a cycle
exactly if ids show one another in a circle, and the cycle that it names is such a circle.
-/

namespace FormEngine

/-- A word that is known, or that can be written. -/
def Recognised.IsWritten {κ : Type} : Recognised κ → Prop
  | .known _ => True
  | .unknown raw => raw.hasOverlong = false

/-- A field that can be analysed: its label is a text, its order an integer, its rules are rules
whose patterns can be read or are none, its conditions are conditions on ids, and their kinds and
operators are known or can be written. -/
structure Field.IsAnalysable (field : Field) : Prop where
  label : field.label.IsText
  order : ∃ position, field.order = .int position
  validationRules : ∀ entry ∈ field.validationRules,
    ∃ rule, entry = .proper rule ∧ rule.PatternReads ∧ rule.kind.IsWritten
  conditionalRules : ∀ entry ∈ field.conditionalRules,
    ∃ rule, entry = .proper rule ∧ rule.trigger.IsText ∧ rule.operator.IsWritten

/-- A field that can be inspected: its order is an integer, its rules are rules whose patterns can be
read or are none, and its conditions are conditions on ids. -/
structure Field.IsInspectable (field : Field) : Prop where
  order : ∃ position, field.order = .int position
  validationRules : ∀ entry ∈ field.validationRules,
    ∃ rule, entry = .proper rule ∧ rule.PatternReads
  conditionalRules : ∀ entry ∈ field.conditionalRules,
    ∃ rule, entry = .proper rule ∧ rule.trigger.IsText

/-- What is left of such a field that stops the analysis, and with what fault: a label that is no
text, or an unknown kind or operator that can not be written. -/
inductive Field.Stops (field : Field) : Fault → Prop where
  | label (notText : ¬field.label.IsText) :
      field.Stops (.missingPart field.label.kindName "strip")
  | kind {rule : ValidationRule} (isRule : .proper rule ∈ field.validationRules)
      (unwritten : ¬rule.kind.IsWritten) : field.Stops .integerUnwritten
  | operator {rule : ConditionalRule} (isCondition : .proper rule ∈ field.conditionalRules)
      (unwritten : ¬rule.operator.IsWritten) : field.Stops .integerUnwritten

/-- A field that can be analysed can be inspected. -/
theorem Field.IsAnalysable.isInspectable {field : Field} (analysable : field.IsAnalysable) :
    field.IsInspectable where
  order := analysable.order
  validationRules entry member :=
    (analysable.validationRules entry member).imp fun _ ⟨same, reads, _⟩ => ⟨same, reads⟩
  conditionalRules entry member :=
    (analysable.conditionalRules entry member).imp fun _ ⟨same, isText, _⟩ => ⟨same, isText⟩

/-- A field that can be analysed does not stop the analysis. -/
theorem Field.IsAnalysable.not_stops {field : Field} (analysable : field.IsAnalysable)
    (fault : Fault) : ¬field.Stops fault := by
  intro stops
  cases stops with
  | label notText => exact notText analysable.label
  | kind isRule unwritten =>
    obtain ⟨rule, ⟨⟩, -, isWritten⟩ := analysable.validationRules _ isRule
    exact unwritten isWritten
  | operator isCondition unwritten =>
    obtain ⟨rule, ⟨⟩, -, isWritten⟩ := analysable.conditionalRules _ isCondition
    exact unwritten isWritten

open Result (FailsOnly failsOnly_bind_iff failsOnly_foldlM)

variable {report after : Report} {fields : List Field} {ids : List String} {id : String}
  {graph built : Dependencies}

/-- Integers as orders can be sorted. -/
theorem exists_ordersAreContiguous
    (integers : ∀ field ∈ fields, ∃ position, field.order = .int position) :
    ∃ contiguous, ordersAreContiguous fields = .ok contiguous := by
  have compares : Sorting.Compares Value.before (fields.map (·.order)) := by
    intro left leftIn right rightIn
    obtain ⟨first, inFields, rfl⟩ := List.mem_map.mp leftIn
    obtain ⟨second, inFieldsToo, rfl⟩ := List.mem_map.mp rightIn
    obtain ⟨a, firstOrder⟩ := integers first inFields
    obtain ⟨b, secondOrder⟩ := integers second inFieldsToo
    rw [firstOrder, secondOrder]
    exact ⟨_, rfl⟩
  obtain ⟨sorted, given, -⟩ := Sorting.sort_eq_ok compares
  simp [ordersAreContiguous, given]

/-- Inspecting rules whose patterns can be read fails only if a kind can not be written. -/
theorem failsOnly_inspectRules {rules : List (Entry ValidationRule)}
    (read : ∀ entry ∈ rules, ∃ rule, entry = .proper rule ∧ rule.PatternReads) :
    FailsOnly (fun fault => fault = .integerUnwritten ∧
        ∃ rule, .proper rule ∈ rules ∧ ¬rule.kind.IsWritten)
      (inspectRules id report rules) := by
  induction rules generalizing report with
  | nil => simp [inspectRules]
  | cons entry rest inductionHypothesis =>
    obtain ⟨rule, rfl, reads⟩ := read entry (.head _)
    have later {between : Report} : FailsOnly (fun fault => fault = .integerUnwritten ∧
        ∃ other, .proper other ∈ .proper rule :: rest ∧ ¬other.kind.IsWritten)
        (inspectRules id between rest) := by
      refine (inductionHypothesis fun other member => read other (.tail _ member)).imp ?_
      rintro fault ⟨same, other, member, unwritten⟩
      exact ⟨same, other, .tail _ member, unwritten⟩
    simp only [inspectRules, Entry.ruleOf, Result.ok_bind]
    split
    · next raw isUnknown =>
      refine failsOnly_bind_iff.mpr ⟨fun fault fails => ?_, fun _ _ => later⟩
      obtain ⟨overlong, same⟩ := Value.spell_eq_error_iff.mp fails
      exact ⟨same, rule, .head _, by simp [isUnknown, Recognised.IsWritten, overlong]⟩
    · next isPattern =>
      split
      · next fault refused => exact absurd refused (reads isPattern fault)
      · exact later
      · exact later
      · exact later
    · exact later

/-- Inspecting a field fails only with what the field stops it with. -/
theorem failsOnly_inspectField {field : Field} (inspectable : field.IsInspectable) :
    FailsOnly field.Stops (inspectField report field) := by
  unfold inspectField labelIsEmpty
  refine failsOnly_bind_iff.mpr ⟨?_, fun _ _ => ?_⟩
  · split
    · simp
    · next notText =>
      rw [Result.failsOnly_error_iff]
      exact .label (not_exists.mpr notText)
  · refine (failsOnly_inspectRules inspectable.validationRules).imp ?_
    rintro _ ⟨rfl, rule, isRule, unwritten⟩
    exact .kind isRule unwritten

/-- Inspecting fields fails only with what one of them stops it with. -/
theorem failsOnly_inspectFields (inspectable : ∀ field ∈ fields, field.IsInspectable) :
    FailsOnly (fun fault => ∃ field ∈ fields, field.Stops fault)
      (fields.foldlM inspectField report) :=
  failsOnly_foldlM fields (fun _ field member =>
    (failsOnly_inspectField (inspectable field member)).imp fun _ stops =>
      ⟨field, member, stops⟩) report

/-- Where rules were inspected, their kinds are known or can be written. -/
theorem isWritten_of_inspectRules {rules : List (Entry ValidationRule)}
    (inspected : inspectRules id report rules = .ok after) {rule : ValidationRule}
    (member : .proper rule ∈ rules) : rule.kind.IsWritten := by
  induction rules generalizing report with
  | nil => cases member
  | cons entry rest inductionHypothesis =>
    obtain ⟨first, between, rfl, enters, later⟩ := inspectRules_cons_eq_ok inspected
    rcases List.mem_cons.mp member with same | inRest
    · obtain rfl := Entry.proper.inj same
      cases enters with
      | unknownKind isKind short => rwa [isKind]
      | invalidPattern isKind | nothing isKind => rw [isKind]; trivial
    · exact inductionHypothesis later inRest

/-- Where fields were inspected, their labels are texts, and the kinds of their rules are known or
can be written. -/
theorem of_inspectFields (inspected : fields.foldlM inspectField report = .ok after) {field : Field}
    (member : field ∈ fields) :
    field.label.IsText ∧ ∀ rule, .proper rule ∈ field.validationRules → rule.kind.IsWritten := by
  obtain ⟨before, between, here⟩ := Result.exists_of_mem_foldlM inspected member
  obtain ⟨labelEmpty, isLabel, counted⟩ := Result.bind_eq_ok_iff.mp here
  refine ⟨?_, fun rule => isWritten_of_inspectRules counted⟩
  unfold labelIsEmpty at isLabel
  split at isLabel
  · next text isText => exact ⟨text, isText⟩
  · cases isLabel

/-- Inspecting an operator fails only if it can not be written. -/
theorem failsOnly_inspectOperator {operator : Recognised Operator} :
    FailsOnly (fun fault => fault = .integerUnwritten ∧ ¬operator.IsWritten)
      (inspectOperator id report operator) := by
  cases operator with
  | known word => simp [inspectOperator]
  | unknown raw =>
    refine failsOnly_bind_iff.mpr ⟨fun fault fails => ?_, fun word _ => by simp⟩
    obtain ⟨overlong, same⟩ := Value.spell_eq_error_iff.mp fails
    exact ⟨same, by simp [Recognised.IsWritten, overlong]⟩

/-- Where an operator was inspected, it is known or can be written. -/
theorem isWritten_of_inspectOperator {operator : Recognised Operator}
    (inspected : inspectOperator id report operator = .ok after) : operator.IsWritten := by
  cases operator with
  | known word => trivial
  | unknown raw =>
    obtain ⟨word, spelled, -⟩ := Result.bind_eq_ok_iff.mp inspected
    exact (Value.spell_eq_ok_iff.mp spelled).1

/-- Inspecting a condition on an id fails only if its operator can not be written. -/
theorem failsOnly_inspectCondition {rule : ConditionalRule} (isText : rule.trigger.IsText) :
    FailsOnly (fun fault => fault = .integerUnwritten ∧ ¬rule.operator.IsWritten)
      (inspectCondition ids id (report, graph) (.proper rule)) := by
  obtain ⟨trigger, operator, comparison⟩ := rule
  obtain ⟨text, rfl⟩ : ∃ text, trigger = .str text := isText
  simp only [inspectCondition, Entry.conditionOf, Result.ok_bind, Value.unkeyable?]
  refine failsOnly_bind_iff.mpr ⟨failsOnly_inspectOperator, fun between _ => ?_⟩
  split
  · simp
  · split <;> simp

/-- A condition on an id that is inspected adds nothing but a text to the missing triggers. -/
theorem texts_of_inspectCondition {rule : ConditionalRule} (isText : rule.trigger.IsText)
    (inspected : inspectCondition ids id (report, graph) (.proper rule) = .ok (after, built))
    (texts : ∀ value ∈ report.danglingReferences.items, value.IsText) :
    ∀ value ∈ after.danglingReferences.items, value.IsText := by
  obtain ⟨_, between, ⟨⟩, entered, enters⟩ := inspectCondition_eq_ok inspected
  obtain ⟨operators, rfl, -⟩ := inspectOperator_eq_ok entered
  cases enters with
  | own | edge => exact texts
  | missing =>
    intro value member
    rcases Table.mem_items_push member with rfl | before
    · exact isText
    · exact texts value before

/-- Conditions are inspected one after the other. -/
theorem inspectConditions_eq_foldlM (found : Report × Dependencies)
    (conditions : List (String × Entry ConditionalRule)) :
    inspectConditions ids found conditions = conditions.foldlM
      (fun found condition => inspectCondition ids condition.1 found condition.2) found := by
  induction conditions generalizing found with
  | nil => rfl
  | cons condition rest inductionHypothesis =>
    simp only [inspectConditions, inductionHypothesis, List.foldlM_cons]

/-- Inspecting the conditions of fields fails only with what one of the fields stops it with. -/
theorem failsOnly_inspectConditions (inspectable : ∀ field ∈ fields, field.IsInspectable) :
    FailsOnly (fun fault => ∃ field ∈ fields, field.Stops fault)
      (inspectConditions ids (report, graph) (conditionsOf fields)) := by
  rw [inspectConditions_eq_foldlM]
  refine failsOnly_foldlM _ (fun found => forall_mem_conditionsOf.mpr ?_) _
  intro field inFields entry isCondition
  obtain ⟨rule, rfl, isText⟩ := (inspectable field inFields).conditionalRules entry isCondition
  refine (failsOnly_inspectCondition isText).imp ?_
  rintro _ ⟨rfl, unwritten⟩
  exact ⟨field, inFields, .operator isCondition unwritten⟩

/-- Where the conditions of fields were inspected, the missing triggers are texts, if all triggers
are. -/
theorem texts_of_inspectConditions (inspectable : ∀ field ∈ fields, field.IsInspectable)
    (inspected : inspectConditions ids (report, graph) (conditionsOf fields) = .ok (after, built))
    (texts : ∀ value ∈ report.danglingReferences.items, value.IsText) :
    ∀ value ∈ after.danglingReferences.items, value.IsText := by
  rw [inspectConditions_eq_foldlM] at inspected
  refine Result.of_foldlM_eq_ok (fun found => ∀ value ∈ found.1.danglingReferences.items,
    value.IsText) inspected texts fun found => ?_
  refine forall_mem_conditionsOf.mpr fun field inFields entry isCondition next here before => ?_
  obtain ⟨rule, rfl, isText⟩ := (inspectable field inFields).conditionalRules entry isCondition
  exact texts_of_inspectCondition isText here before

/-- Where conditions were inspected, their operators are known or can be written. -/
theorem isWritten_of_inspectConditions
    (inspected : inspectConditions ids (report, graph) (conditionsOf fields) = .ok (after, built))
    {field : Field} (inFields : field ∈ fields) {rule : ConditionalRule}
    (isCondition : .proper rule ∈ field.conditionalRules) : rule.operator.IsWritten := by
  rw [inspectConditions_eq_foldlM] at inspected
  have member : (field.id, .proper rule) ∈ conditionsOf fields :=
    List.mem_flatMap.mpr ⟨field, inFields, List.mem_map_of_mem isCondition⟩
  obtain ⟨⟨before, _⟩, ⟨between, _⟩, here⟩ := Result.exists_of_mem_foldlM inspected member
  obtain ⟨_, operated, same, entered, -⟩ := inspectCondition_eq_ok here
  obtain rfl := Entry.proper.inj same
  exact isWritten_of_inspectOperator entered

/-- Texts can be joined. -/
theorem exists_joinTexts (separator : String) {items : List Value}
    (texts : ∀ value ∈ items, value.IsText) : ∃ joined, joinTexts separator items = .ok joined := by
  simp only [joinTexts, Result.bind_eq_ok_iff]
  rw [exists_comm]
  refine (Result.exists_mapM_eq_ok ?_).imp fun parts given => ⟨_, given, rfl⟩
  rintro ⟨item, position⟩ member
  obtain ⟨text, rfl⟩ := texts item (List.fst_mem_of_mem_zipIdx member)
  exact ⟨text, rfl⟩

/-- Missing triggers that are texts can be told of. -/
theorem exists_warnOfMissing {dangling : Table (List Value)}
    (texts : ∀ value ∈ dangling.items, value.IsText) :
    ∃ warnings, warnOfMissing dangling = .ok warnings := by
  unfold warnOfMissing
  split
  · exact ⟨[], rfl⟩
  · have distinctTexts : ∀ value ∈ Value.distinctItems dangling.items, value.IsText :=
      fun value member => texts value (mem_of_mem_distinctItems member)
    have compares : Sorting.Compares Value.before (Value.distinctItems dangling.items) := by
      intro left leftIn right rightIn
      obtain ⟨a, rfl⟩ := distinctTexts left leftIn
      obtain ⟨b, rfl⟩ := distinctTexts right rightIn
      exact ⟨_, rfl⟩
    obtain ⟨sorted, given, permuted⟩ := Sorting.sort_eq_ok compares
    obtain ⟨joined, isJoined⟩ := exists_joinTexts ", "
      fun value member => distinctTexts value (permuted.mem_iff.mp member)
    unfold Table.items at given
    rw [given, Result.ok_bind, isJoined]
    exact ⟨_, rfl⟩

/-- The analysis of fields that can be inspected fails only with what one of them stops it with. -/
theorem failsOnly_analyzeFields (title : Value)
    (inspectable : ∀ field ∈ fields, field.IsInspectable) :
    FailsOnly (fun fault => ∃ field ∈ fields, field.Stops fault) (analyzeFields title fields) := by
  obtain ⟨contiguous, ordered⟩ :=
    exists_ordersAreContiguous fun field member => (inspectable field member).order
  simp only [analyzeFields, ordered, Result.ok_bind]
  refine failsOnly_bind_iff.mpr ⟨failsOnly_inspectFields inspectable, fun counted areCounted => ?_⟩
  refine failsOnly_bind_iff.mpr ⟨failsOnly_inspectConditions inspectable, fun found inspected => ?_⟩
  have noneMissing : counted.danglingReferences = {} :=
    (listsRules_of_inspectFields areCounted).danglingReferences
  have texts := texts_of_inspectConditions inspectable inspected (by simp [noneMissing, Table.items])
  obtain ⟨missing, told⟩ := exists_warnOfMissing texts
  simp [warningsOf, told]

/-- Fields that have a report do not stop the analysis. -/
theorem not_stops_of_analyzeFields {title : Value} (analyzed : analyzeFields title fields = .ok report)
    {field : Field} (member : field ∈ fields) (fault : Fault) : ¬field.Stops fault := by
  simp only [analyzeFields, Result.bind_eq_ok_iff] at analyzed
  obtain ⟨_, -, counted, areCounted, ⟨between, graph⟩, inspected, -⟩ := analyzed
  obtain ⟨isText, kinds⟩ := of_inspectFields areCounted member
  intro stops
  cases stops with
  | label notText => exact notText isText
  | kind isRule unwritten => exact unwritten (kinds _ isRule)
  | operator isCondition unwritten =>
    exact unwritten (isWritten_of_inspectConditions inspected member isCondition)

/-- Fields that can be analysed give a report. -/
theorem exists_analyzeFields (title : Value) (analysable : ∀ field ∈ fields, field.IsAnalysable) :
    ∃ report, analyzeFields title fields = .ok report := by
  have onlyStopped := failsOnly_analyzeFields title fun field member =>
    (analysable field member).isInspectable
  cases analyzed : analyzeFields title fields with
  | ok report => exact ⟨report, rfl⟩
  | error fault =>
    obtain ⟨field, member, stops⟩ := onlyStopped fault analyzed
    exact absurd stops ((analysable field member).not_stops fault)

/-- A report tells of the cycle that the search finds in the graph of the form, which is a graph on
the ids of its fields. -/
theorem cycle_of_analyzeFields {title : Value} (analyzed : analyzeFields title fields = .ok report) :
    ∃ graph : Dependencies, report.cycle = graph.cycle? ∧ graph.ids ⊆ fields.map (·.id) ∧
      ∀ source target, graph.Edge source target ↔ Shows fields source target := by
  simp only [analyzeFields, Result.bind_eq_ok_iff] at analyzed
  obtain ⟨contiguous, -, counted, -, ⟨after, built⟩, inspected, warnings, -, same⟩ := analyzed
  obtain rfl := Except.ok.inj same
  have owners : ∀ condition ∈ conditionsOf fields, condition.1 ∈ fields.map (·.id) :=
    forall_mem_conditionsOf.mpr fun field member _ _ => List.mem_map_of_mem member
  exact ⟨built, rfl, ids_of_inspectConditions inspected owners (List.nil_subset _),
    fun source target => edge_iff_shows inspected⟩

/-- The search for a cycle gives an answer for every form that can be analysed. Whenever a form has
a report, the report tells of a cycle exactly if some id shows itself by way of others, and the
cycle that it names has the same id at both ends, no other id twice, at least two different ids,
and each of its ids shows the next. It is what a search on marks comes to that follows the triggers of
this relation one after the other, with calls inside each other for no more ids than there are
fields. -/
theorem analyzeFields_cycle (title : Value) (fields : List Field) :
    ((∀ field ∈ fields, field.IsAnalysable) → ∃ report, analyzeFields title fields = .ok report) ∧
      ∀ report, analyzeFields title fields = .ok report →
        (report.hasCycles = true ↔ ∃ id, Relation.TransGen (Shows fields) id id) ∧
          (report.cycle = none ↔ report.hasCycles = false) ∧
          (∀ cycle, report.cycle = some cycle →
            3 ≤ cycle.length ∧ cycle.head? = cycle.getLast? ∧ cycle.dropLast.Nodup ∧
              cycle.IsChain (Shows fields)) ∧
          ∃ graph : Dependencies,
            (∀ source target, graph.Edge source target ↔ Shows fields source target) ∧
            ∀ depth, fields.length < depth →
              ∃ after, (Dependencies.followEach (graph.follow depth) graph.triggers).run {} =
                .ok (report.cycle, after) := by
  refine ⟨exists_analyzeFields title, fun report analyzed => ?_⟩
  obtain ⟨graph, searched, within, edges⟩ := cycle_of_analyzeFields analyzed
  have sameEdges : graph.Edge = Shows fields := by
    funext source target
    exact propext (edges source target)
  obtain ⟨sound, complete⟩ := graph.cycle?_spec
  rw [sameEdges] at sound complete
  refine ⟨?_, ?_, fun cycle found => ?_, graph, edges, fun depth deep => ?_⟩
  · rw [Report.hasCycles, searched]
    exact complete
  · cases cycle : report.cycle <;> simp [Report.hasCycles, cycle]
  · have isCycle := sound cycle (searched ▸ found)
    exact ⟨isCycle.three_le_length fun id shows => shows.2.1 rfl, isCycle.closed,
      isCycle.distinct, isCycle.linked⟩
  · have fewIds : graph.ids.toFinset.card < depth := calc
      graph.ids.toFinset.card ≤ (fields.map (·.id)).toFinset.card :=
        Finset.card_le_card fun id => by simpa using @within id
      _ ≤ fields.length := by simpa using (fields.map (·.id)).toFinset_card_le
      _ < depth := deep
    rw [searched]
    exact graph.run_followEach_triggers fewIds

/-- A question that is shown by answers to others. -/
def Field.askedAfter (id : String) (triggers : List String) (position : Nat) : Field where
  type := .text
  label := .str "Question"
  id
  order := .int position
  conditionalRules := triggers.map fun trigger => .proper { trigger := .str trigger }

theorem Field.isAnalysable_askedAfter (id : String) (triggers : List String) (position : Nat) :
    (Field.askedAfter id triggers position).IsAnalysable where
  label := ⟨_, rfl⟩
  order := ⟨_, rfl⟩
  validationRules := nofun
  conditionalRules := by
    intro entry member
    obtain ⟨trigger, -, rfl⟩ := List.mem_map.mp member
    exact ⟨_, rfl, ⟨trigger, rfl⟩, trivial⟩

/-- A question that starts a circle of two others without being in it. -/
def enteredCircle : List Field :=
  [.askedAfter "a" [] 0, .askedAfter "b" ["a", "c"] 1, .askedAfter "c" ["b"] 2]

/-- The circle is told of, though its questions are reached from outside of it first. -/
theorem analyzeFields_cycle_enteredCircle :
    ∃ report cycle, analyzeFields (.str "") enteredCircle = .ok report ∧
      report.hasCycles = true ∧ report.cycle = some cycle ∧ 3 ≤ cycle.length ∧
      cycle.IsChain (Shows enteredCircle) := by
  obtain ⟨succeeds, describes⟩ := analyzeFields_cycle (.str "") enteredCircle
  obtain ⟨report, analyzed⟩ := succeeds (by simp [enteredCircle, Field.isAnalysable_askedAfter])
  obtain ⟨cyclic, -, named, -⟩ := describes report analyzed
  have toAndFro : Shows enteredCircle "b" "c" ∧ Shows enteredCircle "c" "b" := by
    simp [Shows, enteredCircle, Field.askedAfter]
  have tells : report.hasCycles = true :=
    cyclic.mpr ⟨"b", .tail (.single toAndFro.1) toAndFro.2⟩
  obtain ⟨cycle, isCycle⟩ := Option.isSome_iff_exists.mp tells
  obtain ⟨long, -, -, linked⟩ := named cycle isCycle
  exact ⟨report, cycle, analyzed, tells, isCycle, long, linked⟩

end FormEngine
