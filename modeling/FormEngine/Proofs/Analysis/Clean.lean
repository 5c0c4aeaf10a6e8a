import FormEngine.Proofs.Analysis.Report
import FormEngine.Proofs.Field.Numbering
import FormEngine.Proofs.Value.Order
import Mathlib.Data.List.Sort
import Mathlib.Data.Set.List
import Mathlib.Tactic.MkIffOfInductiveProp

/-!
# Clean reports

A report has no warnings exactly if its form is sound: its fields are told apart by their ids and
numbered, each of them is complete, and every condition depends on another field, none of them on
itself by way of others. Each step of the analysis finds nothing new exactly if what it inspects is
sound, so nothing is found in the end if all of it is.
-/

namespace FormEngine

/-- A rule that is understood: its kind is known, and a pattern that it gives is one. -/
structure ValidationRule.IsSound (rule : ValidationRule) : Prop where
  kind : ∃ kind, rule.kind = .known kind
  pattern : rule.kind = .known .pattern → rule.parameter ≠ .null → rule.parameter ≠ .str "" →
    ∃ text node, rule.parameter.spell = .ok text ∧ Pattern.compile text = .ok node

/-- A condition that is understood: its operator is known, and its trigger is one of the ids, but
not that of the field with the condition. -/
@[mk_iff]
structure ConditionalRule.IsSound (ids : List String) (id : String) (rule : ConditionalRule) :
    Prop where
  operator : ∃ operator, rule.operator = .known operator
  trigger : ∃ trigger ∈ ids, trigger ≠ id ∧ rule.trigger = .str trigger

/-- A complete field: its label says something, there are options to choose from, and its rules are
understood. -/
@[mk_iff]
structure Field.IsComplete (field : Field) : Prop where
  label : ∃ text, field.label = .str text ∧ ∃ c ∈ text.toList, Text.isBlank c = false
  options : field.isChoice = true → field.options ≠ []
  validationRules : ∀ entry ∈ field.validationRules, ∃ rule, entry = .proper rule ∧ rule.IsSound

/-- The fields of a sound form. -/
@[mk_iff]
structure AreSound (fields : List Field) : Prop where
  distinct : (fields.map (·.id)).Nodup
  enumerated : Enumerated fields
  complete : ∀ field ∈ fields, field.IsComplete
  conditions : ∀ field ∈ fields, ∀ entry ∈ field.conditionalRules,
    ∃ rule, entry = .proper rule ∧ rule.IsSound (fields.map (·.id)) field.id
  acyclic : ∀ id, ¬Relation.TransGen (Shows fields) id id

/-- Integers are ordered by their amounts. -/
theorem orderedBy_amount (amounts : List Int) :
    Sorting.OrderedBy Value.before Value.amount (amounts.map .int) := by
  intro left leftIn right rightIn
  obtain ⟨a, -, rfl⟩ := List.mem_map.mp leftIn
  obtain ⟨b, -, rfl⟩ := List.mem_map.mp rightIn
  exact Value.before_int a b

/-- The check of the orders passes exactly if they are the places of the fields, in any order. -/
theorem contiguous_iff {fields : List Field} {contiguous : Bool}
    (integers : ∀ field ∈ fields, ∃ position, field.order = .int position)
    (checked : ordersAreContiguous fields = .ok contiguous) :
    contiguous = true ↔ Enumerated fields := by
  let places : List Int := (List.range fields.length).map Nat.cast
  have arePlaces : (List.range fields.length).map (fun place : Nat => Value.int place) =
      places.map .int := by
    simp [places, Function.comp_def]
  obtain ⟨orders, areOrders⟩ : ∃ orders : List Int, orders.map .int = fields.map (·.order) := by
    refine Set.mem_range.mp (Set.range_list_map Value.int ▸ fun order member => ?_)
    obtain ⟨field, inFields, rfl⟩ := List.mem_map.mp member
    obtain ⟨position, isOrder⟩ := integers field inFields
    exact ⟨position, isOrder.symm⟩
  obtain ⟨sorted, isSorted, same⟩ := Result.bind_eq_ok_iff.mp checked
  rw [← areOrders] at isSorted
  have ascends := Sorting.ascends_of_sort (orderedBy_amount orders).pairwise isSorted
  obtain ⟨amounts, rfl, permuted⟩ :
      Relation.Comp (fun values amounts => values = amounts.map Value.int) List.Perm sorted orders := by
    rw [List.eq_map_comp_perm]
    exact Sorting.perm_of_sort isSorted
  have isContiguous : contiguous = true ↔ amounts = places := by
    rw [← Except.ok.inj same, arePlaces]
    exact Value.same_list_int
  rw [isContiguous, Enumerated, ← areOrders, arePlaces, List.map_perm_map_iff fun _ _ => Value.int.inj]
  constructor
  · rintro rfl
    exact permuted.symm
  · intro enumerated
    have amountsAscend : amounts.Pairwise (· ≤ ·) := by
      simpa [Sorting.Ascends, List.pairwise_map, Value.amount] using ascends
    have placesAscend : places.Pairwise (· ≤ ·) :=
      List.pairwise_map.mpr (List.pairwise_le_range.imp Int.ofNat_le.mpr)
    exact (permuted.trans enumerated).eq_of_pairwise' amountsAscend placesAscend

/-- No id is named as a duplicate exactly if there are none. -/
theorem duplicateIds_eq_nil_iff {ids : List String} : duplicateIds ids = [] ↔ ids.Nodup := by
  simp only [List.eq_nil_iff_forall_not_mem, duplicateIds, mem_distinct, List.mem_filter,
    decide_eq_true_eq, not_and, Nat.not_lt, List.nodup_iff_count_le_one]
  refine forall_congr' fun id => ⟨fun once => ?_, fun once _ => once⟩
  by_cases member : id ∈ ids
  · exact once member
  · simp [List.count_eq_zero_of_not_mem member]

/-- Nothing is found yet that there is to warn of, leaving aside cycles. -/
@[mk_iff]
structure Report.IsQuiet (report : Report) : Prop where
  duplicateIds : report.duplicateIds = []
  orderIsContiguous : report.orderIsContiguous = true
  danglingReferences : report.danglingReferences = {}
  selfReferences : report.selfReferences = []
  choicesWithoutOptions : report.choicesWithoutOptions = []
  emptyLabels : report.emptyLabels = []
  invalidPatterns : report.invalidPatterns = {}
  unknownOperators : report.unknownOperators = {}
  unknownRuleKinds : report.unknownRuleKinds = {}

/-- Something is there once an id was added. -/
theorem addOnce_ne_nil (ids : List String) (id : String) : addOnce ids id ≠ [] := by
  unfold addOnce
  split
  · next known => exact List.ne_nil_of_mem (by simpa using known)
  · simp

variable {ids : List String} {id : String} {report after : Report} {fields : List Field}

/-- A parameter is absent, or a pattern, exactly if it is a pattern where it is given. -/
theorem patternStatus_iff {parameter : Value} :
    (patternStatus parameter = .absent ∨ ∃ node, patternStatus parameter = .valid node) ↔
      (parameter ≠ .null → parameter ≠ .str "" →
        ∃ text node, parameter.spell = .ok text ∧ Pattern.compile text = .ok node) := by
  by_cases given : parameter = .null ∨ parameter = .str ""
  · rw [patternStatus, if_pos given]
    rcases given with isNull | isEmpty
    · simp [isNull]
    · simp [isEmpty]
  · rw [patternStatus, if_neg given]
    obtain ⟨notNull, notEmpty⟩ := not_or.mp given
    cases spelled : parameter.spell with
    | error fault => simp [notNull, notEmpty]
    | ok text =>
      cases compiled : Pattern.compile text with
      | ok node => simp [compiled]
      | error trouble => cases trouble <;> simp [compiled, notNull, notEmpty]

/-- Nothing is found in a rule exactly if it is sound. -/
theorem Report.EntersRule.isQuiet_iff {rule : ValidationRule}
    (enters : report.EntersRule id rule after) : after.IsQuiet ↔ report.IsQuiet ∧ rule.IsSound := by
  cases enters with
  | unknownKind kind short =>
    have notSound : ¬rule.IsSound := by
      rintro ⟨⟨word, isKnown⟩, -⟩
      cases kind.symm.trans isKnown
    simp [Report.isQuiet_iff, Table.push_ne_empty, notSound]
  | invalidPattern kind invalid =>
    have notSound : ¬rule.IsSound := by
      rintro ⟨-, pattern⟩
      rcases patternStatus_iff.mpr (pattern kind) with absent | ⟨node, valid⟩
      · cases invalid.symm.trans absent
      · cases invalid.symm.trans valid
    simp [Report.isQuiet_iff, Table.push_ne_empty, notSound]
  | nothing isKind pattern =>
    have sound : rule.IsSound :=
      ⟨⟨_, isKind⟩, fun isPattern =>
        patternStatus_iff.mp (pattern (Recognised.known.inj (isKind.symm.trans isPattern)))⟩
    simp [sound]

/-- Inspecting rules finds nothing exactly if all of them are sound. -/
theorem isQuiet_inspectRules {entries : List (Entry ValidationRule)}
    (inspected : inspectRules id report entries = .ok after) :
    after.IsQuiet ↔
      report.IsQuiet ∧ ∀ entry ∈ entries, ∃ rule, entry = .proper rule ∧ rule.IsSound := by
  induction entries generalizing report with
  | nil =>
    obtain rfl := Except.ok.inj inspected
    simp
  | cons entry rest inductionHypothesis =>
    obtain ⟨rule, between, rfl, enters, later⟩ := inspectRules_cons_eq_ok inspected
    rw [inductionHypothesis later, enters.isQuiet_iff]
    simp [and_assoc]

/-- Inspecting a field finds nothing exactly if the field is complete. -/
theorem isQuiet_inspectField {field : Field} (inspected : inspectField report field = .ok after) :
    after.IsQuiet ↔ report.IsQuiet ∧ field.IsComplete := by
  obtain ⟨labelEmpty, isLabel, counted⟩ := Result.bind_eq_ok_iff.mp inspected
  obtain ⟨text, label, rfl⟩ : ∃ text, field.label = .str text ∧ Text.isBlankText text = labelEmpty := by
    unfold labelIsEmpty at isLabel
    split at isLabel
    · next text label => exact ⟨text, label, Except.ok.inj isLabel⟩
    · cases isLabel
  have labelSays : (∃ text, field.label = .str text ∧ ∃ c ∈ text.toList, Text.isBlank c = false) ↔
      Text.isBlankText text = false := by
    simp [label, Text.isBlankText]
  have hasOptions : (field.isChoice = true → field.options ≠ []) ↔
      (field.isChoice && field.options.isEmpty) = false := by
    simp
  rw [isQuiet_inspectRules counted, Field.isComplete_iff, labelSays, hasOptions]
  cases Text.isBlankText text <;> cases (field.isChoice && field.options.isEmpty) <;>
    simp [Report.isQuiet_iff, addOnce_ne_nil, and_assoc]

/-- Inspecting fields finds nothing exactly if all of them are complete. -/
theorem isQuiet_inspectFields (inspected : fields.foldlM inspectField report = .ok after) :
    after.IsQuiet ↔ report.IsQuiet ∧ ∀ field ∈ fields, field.IsComplete := by
  induction fields generalizing report with
  | nil =>
    obtain rfl := Except.ok.inj inspected
    simp
  | cons field rest inductionHypothesis =>
    rw [List.foldlM_cons] at inspected
    obtain ⟨between, first, later⟩ := Result.bind_eq_ok_iff.mp inspected
    rw [inductionHypothesis later, isQuiet_inspectField first]
    simp [and_assoc]

/-- Inspecting an operator finds nothing exactly if it is known. -/
theorem isQuiet_inspectOperator {operator : Recognised Operator}
    (inspected : inspectOperator id report operator = .ok after) :
    after.IsQuiet ↔ report.IsQuiet ∧ ∃ word, operator = .known word := by
  cases operator with
  | known word =>
    obtain rfl := Except.ok.inj inspected
    simp
  | unknown raw =>
    obtain ⟨word, -, same⟩ := Result.bind_eq_ok_iff.mp inspected
    obtain rfl := Except.ok.inj same
    simp [Report.isQuiet_iff, Table.push_ne_empty]

/-- Nothing is found in a trigger exactly if it is another one of the ids. -/
theorem Report.EntersTrigger.isQuiet_iff {graph built : Dependencies} {trigger : Value}
    (enters : report.EntersTrigger graph ids id trigger after built) :
    after.IsQuiet ↔ report.IsQuiet ∧ ∃ text ∈ ids, text ≠ id ∧ trigger = .str text := by
  cases enters with
  | own isOwn => simp [Report.isQuiet_iff, addOnce_ne_nil, isOwn]
  | edge isText known different => simp [isText, known, different]
  | missing _ _ unknown =>
    have notOther : ¬∃ text ∈ ids, text ≠ id ∧ trigger = .str text := by
      rintro ⟨text, known, -, isText⟩
      exact unknown text known isText
    simp [Report.isQuiet_iff, Table.push_ne_empty, notOther]

/-- Inspecting a condition finds nothing exactly if it is sound. -/
theorem isQuiet_inspectCondition {graph built : Dependencies} {entry : Entry ConditionalRule}
    (inspected : inspectCondition ids id (report, graph) entry = .ok (after, built)) :
    after.IsQuiet ↔ report.IsQuiet ∧ ∃ rule, entry = .proper rule ∧ rule.IsSound ids id := by
  obtain ⟨rule, between, rfl, entered, enters⟩ := inspectCondition_eq_ok inspected
  rw [enters.isQuiet_iff, isQuiet_inspectOperator entered]
  simp [ConditionalRule.isSound_iff, and_assoc]

/-- Inspecting conditions finds nothing exactly if all of them are sound. -/
theorem isQuiet_inspectConditions {graph built : Dependencies}
    {conditions : List (String × Entry ConditionalRule)}
    (inspected : inspectConditions ids (report, graph) conditions = .ok (after, built)) :
    after.IsQuiet ↔ report.IsQuiet ∧ ∀ condition ∈ conditions,
      ∃ rule, condition.2 = .proper rule ∧ rule.IsSound ids condition.1 := by
  induction conditions generalizing report graph with
  | nil =>
    obtain ⟨rfl, -⟩ := Prod.mk.inj (Except.ok.inj inspected)
    simp
  | cons condition rest inductionHypothesis =>
    obtain ⟨id, entry⟩ := condition
    obtain ⟨⟨between, middle⟩, first, later⟩ := Result.bind_eq_ok_iff.mp inspected
    rw [inductionHypothesis later, isQuiet_inspectCondition first]
    simp [and_assoc]

/-- Ids are listed in a warning exactly if there are any. -/
theorem warnOfIds_eq_nil_iff {intro : String} : warnOfIds intro ids = [] ↔ ids = [] := by
  cases ids <;> simp [warnOfIds]

/-- There is a warning of missing triggers exactly if there are any. -/
theorem warnOfMissing_eq_nil_iff {dangling : Table (List Value)} {warnings : List String}
    (told : warnOfMissing dangling = .ok warnings) : warnings = [] ↔ dangling = {} := by
  obtain ⟨entries⟩ := dangling
  unfold warnOfMissing at told
  split at told
  · next none =>
    obtain rfl := Except.ok.inj told
    simpa [Table.isEmpty] using none
  · next some =>
    obtain ⟨missing, -, joining⟩ := Result.bind_eq_ok_iff.mp told
    obtain ⟨joined, -, same⟩ := Result.bind_eq_ok_iff.mp joining
    obtain rfl := Except.ok.inj same
    simpa [Table.isEmpty] using some

/-- There are no warnings exactly if nothing is found and there is no cycle. -/
theorem warningsOf_eq_nil_iff {warnings : List String} (told : warningsOf report = .ok warnings) :
    warnings = [] ↔ report.IsQuiet ∧ report.cycle = none := by
  obtain ⟨missing, toldMissing, same⟩ := Result.bind_eq_ok_iff.mp told
  obtain rfl := Except.ok.inj same
  have ordered : (if report.orderIsContiguous then []
      else ["Field order is not a permutation of 0..n-1"]) = [] ↔
      report.orderIsContiguous = true := by
    split <;> simp_all
  simp only [List.append_eq_nil_iff, warnOfIds_eq_nil_iff, Table.keys_eq_nil_iff,
    warnOfMissing_eq_nil_iff toldMissing, ordered, Report.isQuiet_iff]
  cases report.cycle <;> grind

/-- The search finds no cycle exactly if no id shows itself by way of others. -/
theorem cycle_eq_none_iff {graph : Dependencies}
    (edges : ∀ source target, graph.Edge source target ↔ Shows fields source target) :
    graph.cycle? = none ↔ ∀ id, ¬Relation.TransGen (Shows fields) id id := by
  have sameEdges : graph.Edge = Shows fields := by
    funext source target
    exact propext (edges source target)
  rw [← not_exists, ← sameEdges, ← graph.cycle?_spec.2, Option.not_isSome_iff_eq_none]

/-- A report is clean exactly if its form is sound. -/
theorem isClean_iff_areSound {title : Value}
    (integers : ∀ field ∈ fields, ∃ position, field.order = .int position)
    (analyzed : analyzeFields title fields = .ok report) :
    report.isClean = true ↔ AreSound fields := by
  simp only [analyzeFields, Result.bind_eq_ok_iff] at analyzed
  obtain ⟨contiguous, checked, counted, areCounted, ⟨between, graph⟩, inspected, warnings, told,
    same⟩ := analyzed
  obtain rfl := Except.ok.inj same
  have quiet : between.IsQuiet ↔ (fields.map (·.id)).Nodup ∧ Enumerated fields ∧
      (∀ field ∈ fields, field.IsComplete) ∧
      ∀ field ∈ fields, ∀ entry ∈ field.conditionalRules,
        ∃ rule, entry = .proper rule ∧ rule.IsSound (fields.map (·.id)) field.id := by
    rw [isQuiet_inspectConditions inspected, isQuiet_inspectFields areCounted,
      forall_mem_conditionsOf, ← duplicateIds_eq_nil_iff, ← contiguous_iff integers checked]
    simp [Report.isQuiet_iff, and_assoc]
  have searched : ({ between with cycle := graph.cycle? } : Report).IsQuiet ↔ between.IsQuiet := by
    simp only [Report.isQuiet_iff]
  rw [Report.isClean, List.isEmpty_iff, warningsOf_eq_nil_iff told, searched, quiet,
    cycle_eq_none_iff fun _ _ => edge_iff_shows inspected, areSound_iff]
  simp only [and_assoc]

/-- A sound form can be analysed. -/
theorem AreSound.isAnalysable (sound : AreSound fields)
    (integers : ∀ field ∈ fields, ∃ position, field.order = .int position) :
    ∀ field ∈ fields, field.IsAnalysable := by
  intro field member
  have complete := sound.complete field member
  refine ⟨complete.label.imp fun _ => And.left, integers field member, fun entry isRule => ?_,
    fun entry isCondition => ?_⟩
  · obtain ⟨rule, rfl, ⟨⟨kind, isKind⟩, pattern⟩⟩ := complete.validationRules entry isRule
    refine ⟨rule, rfl, fun isPattern fault refused => ?_, by rw [isKind]; trivial⟩
    rcases patternStatus_iff.mpr (pattern isPattern) with absent | ⟨node, valid⟩
    · cases refused.symm.trans absent
    · cases refused.symm.trans valid
  · obtain ⟨rule, rfl, ⟨⟨operator, isOperator⟩, ⟨trigger, -, -, isTrigger⟩⟩⟩ :=
      sound.conditions field member entry isCondition
    exact ⟨rule, rfl, ⟨trigger, isTrigger⟩, by rw [isOperator]; trivial⟩

/-- A clean report means a sound form. Fields whose orders are integers have a report if they can be
analysed, and a report without warnings exactly if their ids are distinct, their orders are the
places of a list, each once, all of them are complete, every condition is one by a known operator on
the id of another field, and no id shows itself by way of others. -/
theorem analyzeFields_isClean_iff (title : Value) (fields : List Field)
    (integers : ∀ field ∈ fields, ∃ position, field.order = .int position) :
    ((∀ field ∈ fields, field.IsAnalysable) → ∃ report, analyzeFields title fields = .ok report) ∧
      ((∃ report, analyzeFields title fields = .ok report ∧ report.isClean = true) ↔
        AreSound fields) := by
  refine ⟨exists_analyzeFields title, ?_, fun sound => ?_⟩
  · rintro ⟨report, analyzed, isClean⟩
    exact (isClean_iff_areSound integers analyzed).mp isClean
  · obtain ⟨report, analyzed⟩ := exists_analyzeFields title (sound.isAnalysable integers)
    exact ⟨report, analyzed, (isClean_iff_areSound integers analyzed).mpr sound⟩

/-- Two questions: the second, which asks for a text of capitals, is shown by an answer to the first,
which offers a choice. -/
def tidyFields : List Field :=
  [{ type := .radio, label := .str "Guest", id := "guest", order := .int 0,
     options := [⟨"Yes", "yes"⟩, ⟨"No", "no"⟩] },
   { type := .text, label := .str "Host", id := "host", order := .int 1,
     validationRules := [.proper { kind := .known .pattern, parameter := .str "^[A-Z]+$" }],
     conditionalRules := [.proper { trigger := .str "guest", comparison := .str "yes" }] }]

/-- The only one of them that shows another is the first. -/
theorem shows_tidyFields {trigger id : String} (shows : Shows tidyFields trigger id) :
    trigger = "guest" ∧ id = "host" := by
  obtain ⟨-, -, field, member, rfl, rule, isCondition, isTrigger⟩ := shows
  simp only [tidyFields, List.mem_cons, List.not_mem_nil, or_false] at member
  rcases member with rfl | rfl
  · cases isCondition
  · obtain rfl := Entry.proper.inj (List.mem_singleton.mp isCondition)
    exact ⟨(Value.str.inj isTrigger).symm, rfl⟩

theorem areSound_tidyFields : AreSound tidyFields where
  distinct := by decide
  enumerated := .of_eq rfl
  complete := by
    obtain ⟨node, compiled⟩ : ∃ node, Pattern.compile "^[A-Z]+$" = .ok node :=
      Result.exists_of_isOk (by decide +kernel)
    refine List.forall_mem_cons.mpr ⟨⟨⟨_, rfl, 'G', by simp, rfl⟩, nofun, nofun⟩,
      List.forall_mem_singleton.mpr ⟨⟨_, rfl, 'H', by simp, rfl⟩, nofun, fun entry isRule => ?_⟩⟩
    obtain rfl := List.mem_singleton.mp isRule
    exact ⟨_, rfl, ⟨_, rfl⟩, fun _ _ _ => ⟨_, node, Value.spell_str _, compiled⟩⟩
  conditions := by
    refine List.forall_mem_cons.mpr ⟨nofun, List.forall_mem_singleton.mpr fun entry isCondition => ?_⟩
    obtain rfl := List.mem_singleton.mp isCondition
    exact ⟨_, rfl, ⟨_, rfl⟩, "guest", .head _, by decide, rfl⟩
  acyclic := by
    intro id returns
    obtain ⟨next, first, -⟩ := Relation.TransGen.head'_iff.mp returns
    obtain ⟨before, -, last⟩ := Relation.TransGen.tail'_iff.mp returns
    exact absurd ((shows_tidyFields first).1.symm.trans (shows_tidyFields last).2) (by decide)

/-- There is nothing to warn of in them. -/
theorem analyzeFields_isClean_iff_tidyFields :
    (∀ field ∈ tidyFields, ∃ position, field.order = .int position) ∧
      ∃ report, analyzeFields (.str "") tidyFields = .ok report ∧ report.isClean = true := by
  have integers : ∀ field ∈ tidyFields, ∃ position, field.order = .int position := by
    simp [tidyFields]
  obtain ⟨-, cleanIff⟩ := analyzeFields_isClean_iff (.str "") tidyFields integers
  exact ⟨integers, cleanIff.mpr areSound_tidyFields⟩

end FormEngine
