import FormEngine.Proofs.Analysis.Clean
import FormEngine.Proofs.Store.Deletion

/-!
# Analysis after a deletion

What a report tells of references is found in the conditions of the form, one by one: the triggers
that are missing, the fields that refer to themselves, and the edges between the others. A deletion
leaves of these conditions those that belong to other fields and are on other ids. None of them says
anything else than before, so that a deletion creates no findings: those of the deleted field are
gone, all others stay, and no cycle is closed.
-/

namespace FormEngine

variable {ids : List String} {id : String} {report after : Report} {graph built : Dependencies}
  {conditions : List (String × Entry ConditionalRule)} {fields : List Field}

/-- The triggers of conditions that are none of some ids, each with the id of its field. -/
def missingTriggers (ids : List String) (conditions : List (String × Entry ConditionalRule)) :
    List (String × Value) :=
  conditions.filterMap fun (id, entry) =>
    (entry.proper?.filter (·.dangles ids)).map fun rule => (id, rule.trigger)

/-- The ids of fields that refer to themselves, once for each condition that does. -/
def ownTriggers (conditions : List (String × Entry ConditionalRule)) : List String :=
  conditions.filterMap fun (id, entry) =>
    (entry.proper?.filter (·.trigger == .str id)).map fun _ => id

theorem missingTriggers_singleton (ids : List String) (id : String) (rule : ConditionalRule) :
    missingTriggers ids [(id, .proper rule)] =
      if rule.dangles ids then [(id, rule.trigger)] else [] := by
  cases dangles : rule.dangles ids <;> simp [missingTriggers, Option.filter, dangles]

theorem ownTriggers_singleton (id : String) (rule : ConditionalRule) :
    ownTriggers [(id, .proper rule)] = if rule.trigger = .str id then [id] else [] := by
  by_cases isOwn : rule.trigger = .str id <;> simp [ownTriggers, Option.filter, isOwn]

/-- What is found of references, beside which nothing is changed that is told of ids and orders. -/
structure Report.Finds (before after : Report) (missing : List (String × Value))
    (own : List String) : Prop where
  danglingReferences : after.danglingReferences = before.danglingReferences.pushAll missing
  selfReferences : after.selfReferences = own.foldl addOnce before.selfReferences
  duplicateIds : after.duplicateIds = before.duplicateIds
  orderIsContiguous : after.orderIsContiguous = before.orderIsContiguous

namespace Report.Finds

variable {before between : Report} {missing moreMissing : List (String × Value)}
  {own moreOwn : List String}

theorem nothing (report : Report) : report.Finds report [] [] :=
  ⟨rfl, rfl, rfl, rfl⟩

theorem trans (first : before.Finds between missing own)
    (second : between.Finds after moreMissing moreOwn) :
    before.Finds after (missing ++ moreMissing) (own ++ moreOwn) where
  danglingReferences := by
    rw [second.danglingReferences, first.danglingReferences]
    simp [Table.pushAll]
  selfReferences := by rw [second.selfReferences, first.selfReferences, List.foldl_append]
  duplicateIds := second.duplicateIds.trans first.duplicateIds
  orderIsContiguous := second.orderIsContiguous.trans first.orderIsContiguous

end Report.Finds

/-- Inspecting rules finds no references. -/
theorem finds_of_inspectRules {rules : List (Entry ValidationRule)}
    (inspected : inspectRules id report rules = .ok after) : report.Finds after [] [] := by
  induction rules generalizing report with
  | nil =>
    obtain rfl := Except.ok.inj inspected
    exact .nothing report
  | cons entry rest inductionHypothesis =>
    obtain ⟨rule, between, rfl, enters, later⟩ := inspectRules_cons_eq_ok inspected
    have first : report.Finds between [] [] := by
      cases enters <;> exact ⟨rfl, rfl, rfl, rfl⟩
    exact first.trans (inductionHypothesis later)

/-- Inspecting fields finds no references. -/
theorem finds_of_inspectFields (inspected : fields.foldlM inspectField report = .ok after) :
    report.Finds after [] [] := by
  refine Result.of_foldlM_eq_ok (report.Finds · [] []) inspected (.nothing report)
    fun found field _ next here before => ?_
  obtain ⟨labelEmpty, -, counted⟩ := Result.bind_eq_ok_iff.mp here
  obtain ⟨dangling, selves, duplicates, contiguous⟩ := finds_of_inspectRules counted
  exact before.trans ⟨dangling, selves, duplicates, contiguous⟩

/-- A condition that is inspected enters its trigger among the missing ones if it is none of the
ids, and the id of its field among those that refer to themselves if it is that. -/
theorem finds_of_inspectCondition {entry : Entry ConditionalRule} (known : id ∈ ids)
    (inspected : inspectCondition ids id (report, graph) entry = .ok (after, built)) :
    report.Finds after (missingTriggers ids [(id, entry)]) (ownTriggers [(id, entry)]) := by
  obtain ⟨rule, between, rfl, entered, enters⟩ := inspectCondition_eq_ok inspected
  obtain ⟨operators, rfl, -⟩ := inspectOperator_eq_ok entered
  rw [missingTriggers_singleton, ownTriggers_singleton]
  cases enters with
  | own isOwn =>
    rw [ConditionalRule.dangles_eq_false isOwn known, if_pos isOwn]
    exact ⟨rfl, rfl, rfl, rfl⟩
  | edge isText isKnown different =>
    have foreign : rule.trigger ≠ .str id := by simpa [isText] using different
    rw [ConditionalRule.dangles_eq_false isText isKnown, if_neg foreign]
    exact ⟨rfl, rfl, rfl, rfl⟩
  | missing _ foreign unknown =>
    rw [ConditionalRule.dangles_iff.mpr unknown, if_neg foreign]
    exact ⟨rfl, rfl, rfl, rfl⟩

/-- Inspecting conditions finds what each of them refers to, in order. -/
theorem finds_of_inspectConditions (known : ∀ condition ∈ conditions, condition.1 ∈ ids)
    (inspected : inspectConditions ids (report, graph) conditions = .ok (after, built)) :
    report.Finds after (missingTriggers ids conditions) (ownTriggers conditions) := by
  induction conditions generalizing report graph with
  | nil =>
    obtain ⟨rfl, -⟩ := Prod.mk.inj (Except.ok.inj inspected)
    exact .nothing report
  | cons condition rest inductionHypothesis =>
    obtain ⟨id, entry⟩ := condition
    obtain ⟨knownHere, knownLater⟩ := List.forall_mem_cons.mp known
    obtain ⟨⟨between, middle⟩, first, later⟩ := Result.bind_eq_ok_iff.mp inspected
    have found := (finds_of_inspectCondition knownHere first).trans
      (inductionHypothesis knownLater later)
    rwa [missingTriggers, missingTriggers, ownTriggers, ownTriggers, ← List.filterMap_append,
      ← List.filterMap_append] at found

/-- What a report tells of references, ids and orders. -/
structure Report.TellsOf (report : Report) (fields : List Field) : Prop where
  danglingReferences : report.danglingReferences =
    ({} : Table (List Value)).pushAll (missingTriggers (fields.map (·.id)) (conditionsOf fields))
  selfReferences : report.selfReferences = (ownTriggers (conditionsOf fields)).foldl addOnce []
  duplicateIds : report.duplicateIds = FormEngine.duplicateIds (fields.map (·.id))
  orders : ordersAreContiguous fields = .ok report.orderIsContiguous
  cycles : report.hasCycles = true ↔ ∃ id, Relation.TransGen (Shows fields) id id

theorem tellsOf_of_analyzeFields {title : Value}
    (analyzed : analyzeFields title fields = .ok report) : report.TellsOf fields := by
  obtain ⟨graph, searched, -, edges⟩ := cycle_of_analyzeFields analyzed
  have sameEdges : graph.Edge = Shows fields := by
    funext source target
    exact propext (edges source target)
  simp only [analyzeFields, Result.bind_eq_ok_iff] at analyzed
  obtain ⟨contiguous, checked, counted, areCounted, ⟨between, built⟩, inspected, _, -, same⟩ :=
    analyzed
  obtain rfl := Except.ok.inj same
  have known : ∀ condition ∈ conditionsOf fields, condition.1 ∈ fields.map (·.id) :=
    forall_mem_conditionsOf.mpr fun field member _ _ => List.mem_map_of_mem member
  obtain ⟨dangling, selves, duplicates, isContiguous⟩ :=
    (finds_of_inspectFields areCounted).trans (finds_of_inspectConditions known inspected)
  refine ⟨dangling, selves, duplicates, isContiguous ▸ checked, ?_⟩
  rw [Report.hasCycles, searched, ← sameEdges]
  exact graph.cycle?_spec.2

/-- Numbering leaves the conditions. -/
theorem conditionsOf_renumber (fields : List Field) :
    conditionsOf (renumber fields) = conditionsOf fields := by
  have unplaced (some : List Field) :
      conditionsOf (some.map Field.unplaced) = conditionsOf some := by
    simp only [conditionsOf, List.flatMap_map]
    rfl
  rw [← unplaced, map_unplaced_renumber, unplaced]

/-- Scrubbing leaves the conditions on other ids. -/
theorem conditionsOf_map_scrubbed (id : String) (fields : List Field) :
    conditionsOf (fields.map (Field.scrubbed id)) =
      (conditionsOf fields).filter (·.2.sparedBy id) := by
  simp only [conditionsOf, List.flatMap_map, List.filter_flatMap, List.filter_map]
  rfl

/-- Without a field the conditions of the others are left. -/
theorem conditionsOf_filter (id : String) (fields : List Field) :
    conditionsOf (fields.filter (·.id != id)) = (conditionsOf fields).filter (·.1 != id) := by
  induction fields with
  | nil => rfl
  | cons field rest inductionHypothesis =>
    have split : conditionsOf (field :: rest) =
        field.conditionalRules.map (field.id, ·) ++ conditionsOf rest := List.flatMap_cons
    rw [split, List.filter_append, ← inductionHypothesis]
    by_cases same : field.id = id
    · simp [same]
    · have kept : (field.conditionalRules.map (field.id, ·)).filter (·.1 != id) =
          field.conditionalRules.map (field.id, ·) := by
        simp [List.filter_eq_self, same]
      simp [same, kept, conditionsOf]

/-- The conditions that are left of some when the field with an id is deleted: those of other fields
on other ids. -/
def conditionsLeft (id : String) (conditions : List (String × Entry ConditionalRule)) :
    List (String × Entry ConditionalRule) :=
  (conditions.filter (·.1 != id)).filter (·.2.sparedBy id)

/-- A trigger is missing after a deletion in the same conditions as before, of those that are left:
the deleted id is a trigger of none of them. -/
theorem missingTriggers_conditionsLeft {id : String} (known : id ∈ ids)
    (proper : ∀ condition ∈ conditions, ∃ rule, condition.2 = .proper rule) :
    missingTriggers (ids.filter (· != id)) (conditionsLeft id conditions) =
      (missingTriggers ids conditions).filter (·.1 != id) := by
  simp only [missingTriggers, conditionsLeft, List.filterMap_filter, List.filter_filterMap]
  refine List.filterMap_congr fun ⟨other, entry⟩ member => ?_
  obtain ⟨rule, rfl⟩ : ∃ rule, entry = .proper rule := proper _ member
  by_cases isDeleted : other = id
  · cases dangles : rule.dangles ids <;> simp [isDeleted, Option.filter, dangles]
  · by_cases onDeleted : rule.trigger = .str id
    · have found := ConditionalRule.dangles_eq_false onDeleted known
      simp [isDeleted, Entry.sparedBy, onDeleted, found, Option.filter]
    · have sameIds : rule.dangles (ids.filter (· != id)) = rule.dangles ids := by
        rw [Bool.eq_iff_iff, ConditionalRule.dangles_iff, ConditionalRule.dangles_iff]
        refine ⟨fun absent text member isText => ?_,
          fun absent text member => absent text (List.mem_of_mem_filter member)⟩
        have different : text ≠ id := fun isDeleted => onDeleted (isDeleted ▸ isText)
        exact absent text (List.mem_filter.mpr ⟨member, by simpa using different⟩) isText
      cases dangles : rule.dangles ids <;>
        simp [isDeleted, Entry.sparedBy, onDeleted, Option.filter, sameIds, dangles]

/-- The other fields that refer to themselves go on doing so after a deletion. -/
theorem ownTriggers_conditionsLeft {id : String}
    (proper : ∀ condition ∈ conditions, ∃ rule, condition.2 = .proper rule) :
    ownTriggers (conditionsLeft id conditions) = (ownTriggers conditions).filter (· != id) := by
  simp only [ownTriggers, conditionsLeft, List.filterMap_filter, List.filter_filterMap]
  refine List.filterMap_congr fun ⟨other, entry⟩ member => ?_
  obtain ⟨rule, rfl⟩ : ∃ rule, entry = .proper rule := proper _ member
  by_cases isDeleted : other = id
  · by_cases isOwn : rule.trigger = .str id <;> simp [isDeleted, Option.filter, isOwn]
  · by_cases isOwn : rule.trigger = .str other <;>
      simp [isDeleted, Entry.sparedBy, Option.filter, isOwn]

/-- Ids that are added once and kept are kept and added once. -/
theorem filter_foldl_addOnce (keep : String → Bool) (ids seen : List String) :
    (ids.foldl addOnce seen).filter keep = (ids.filter keep).foldl addOnce (seen.filter keep) := by
  induction ids generalizing seen with
  | nil => rfl
  | cons id rest inductionHypothesis =>
    rw [List.foldl_cons, inductionHypothesis]
    cases kept : keep id with
    | true =>
      have step : (addOnce seen id).filter keep = addOnce (seen.filter keep) id := by
        simp only [addOnce, List.contains_eq_mem, List.mem_filter, kept, and_true]
        split <;> simp [kept]
      simp [kept, step]
    | false =>
      have step : (addOnce seen id).filter keep = seen.filter keep := by
        unfold addOnce
        split <;> simp [kept]
      simp [kept, step]

/-- After a deletion no other ids show one another than before. -/
theorem Shows.of_conditionsLeft {others : List Field} {id : String}
    (ids : others.map (·.id) ⊆ fields.map (·.id))
    (left : conditionsOf others = conditionsLeft id (conditionsOf fields)) {trigger shown : String}
    (shows : Shows others trigger shown) : Shows fields trigger shown := by
  rw [shows_iff, left] at shows
  obtain ⟨entry, isLeft, known, different, onTrigger⟩ := shows
  exact shows_iff.mpr ⟨entry, List.mem_of_mem_filter (List.mem_of_mem_filter isLeft), ids known,
    different, onTrigger⟩

/-- Where rules were inspected, they are rules, and their patterns can be read or are none. -/
theorem reads_of_inspectRules {rules : List (Entry ValidationRule)}
    (inspected : inspectRules id report rules = .ok after) :
    ∀ entry ∈ rules, ∃ rule, entry = .proper rule ∧ rule.PatternReads := by
  induction rules generalizing report with
  | nil => exact nofun
  | cons entry rest inductionHypothesis =>
    obtain ⟨rule, between, rfl, enters, later⟩ := inspectRules_cons_eq_ok inspected
    have reads : rule.PatternReads := by
      intro isPattern fault refused
      cases enters with
      | unknownKind kind => cases kind.symm.trans isPattern
      | invalidPattern _ invalid => cases refused.symm.trans invalid
      | nothing isKind pattern =>
        rcases pattern (Recognised.known.inj (isKind.symm.trans isPattern)) with absent | ⟨_, valid⟩
        · cases refused.symm.trans absent
        · cases refused.symm.trans valid
    exact List.forall_mem_cons.mpr ⟨⟨rule, rfl, reads⟩, inductionHypothesis later⟩

/-- Where fields have a report, their rules are such. -/
theorem reads_of_analyzeFields {title : Value} (analyzed : analyzeFields title fields = .ok report)
    {field : Field} (member : field ∈ fields) :
    ∀ entry ∈ field.validationRules, ∃ rule, entry = .proper rule ∧ rule.PatternReads := by
  simp only [analyzeFields, Result.bind_eq_ok_iff] at analyzed
  obtain ⟨_, -, counted, areCounted, -⟩ := analyzed
  obtain ⟨before, between, here⟩ := Result.exists_of_mem_foldlM areCounted member
  obtain ⟨labelEmpty, -, inspected⟩ := Result.bind_eq_ok_iff.mp here
  exact reads_of_inspectRules inspected

/-- A field that is another one with fewer conditions stops the analysis with nothing else. -/
theorem Field.Stops.of_fewerConditions {field original : Field} {fault : Fault}
    (stops : field.Stops fault) (label : field.label = original.label)
    (rules : field.validationRules = original.validationRules)
    (conditions : field.conditionalRules ⊆ original.conditionalRules) : original.Stops fault := by
  cases stops with
  | label notText =>
    rw [label] at notText ⊢
    exact .label notText
  | kind isRule unwritten => exact .kind (rules ▸ isRule) unwritten
  | operator isCondition unwritten => exact .operator (conditions isCondition) unwritten

namespace FieldStore

section

variable {store : FieldStore} {id : String}
  (orderly : store.Orderly)
  (onTexts : ∀ field ∈ store.fields, ∀ entry ∈ field.conditionalRules,
    ∃ rule, entry = .proper rule ∧ rule.trigger.IsText)
  (stored : id ∈ store.fieldIds)
include orderly onTexts stored

/-- A deletion leaves the other fields, scrubbed and numbered. -/
theorem fields_delete : (store.delete (.str id)).state.fields =
    (renumber (store.fieldsWithout id)).map (Field.scrubbed id) := by
  have proper : ∀ field ∈ store.fields, field.HasProperConditions :=
    fun field member entry inField => (onTexts field member entry inField).imp fun _ => And.left
  rw [delete_of_proper orderly.distinct stored rfl (hasProperConditions_remaining proper id)]
  rfl

/-- A field that is left is one that was there, with fewer conditions. -/
theorem exists_original {field : Field} (left : field ∈ (store.delete (.str id)).state.fields) :
    ∃ original ∈ store.fields, field.label = original.label ∧
      field.validationRules = original.validationRules ∧
      field.conditionalRules ⊆ original.conditionalRules := by
  rw [fields_delete orderly onTexts stored] at left
  obtain ⟨numbered, inNumbered, rfl⟩ := List.mem_map.mp left
  obtain ⟨original, inOthers, position, rfl⟩ := mem_renumber inNumbered
  exact ⟨original, List.mem_of_mem_filter inOthers, rfl, rfl, List.filter_sublist.subset⟩

/-- The conditions that are left are those of other fields on other ids. -/
theorem conditionsOf_delete : conditionsOf (store.delete (.str id)).state.fields =
    conditionsLeft id (conditionsOf store.fields) := by
  rw [fields_delete orderly onTexts stored, conditionsOf_map_scrubbed, conditionsOf_renumber,
    fieldsWithout, conditionsOf_filter, conditionsLeft]

/-- If fields have a report, then the fields that a deletion leaves have one too. -/
theorem exists_analyzeFields_delete {title : Value} {before : Report}
    (analyzed : analyzeFields title store.fields = .ok before) :
    ∃ after, analyzeFields title (store.delete (.str id)).state.fields = .ok after := by
  have orderlyAfter := orderly.delete (.str id)
  have inspectable : ∀ field ∈ (store.delete (.str id)).state.fields, field.IsInspectable := by
    intro field left
    obtain ⟨original, member, -, rules, conditions⟩ := exists_original orderly onTexts stored left
    exact {
      order := orderlyAfter.placed.order_of_mem left
      validationRules := rules ▸ reads_of_analyzeFields analyzed member
      conditionalRules := fun entry isLeft => onTexts original member entry (conditions isLeft) }
  cases result : analyzeFields title (store.delete (.str id)).state.fields with
  | ok after => exact ⟨after, rfl⟩
  | error fault =>
    obtain ⟨field, left, stops⟩ := failsOnly_analyzeFields title inspectable fault result
    obtain ⟨original, member, label, rules, conditions⟩ :=
      exists_original orderly onTexts stored left
    exact absurd (stops.of_fewerConditions label rules conditions)
      (not_stops_of_analyzeFields analyzed member fault)

/-- Deleting a field creates no findings. If the fields of a store have a report, as they have if
each of them can be analysed, then the fields that are left have one too. It tells of the same
missing triggers and of the same fields that refer to themselves, but for the deleted field, it
tells of no repeated ids and of orders without gaps, and of a cycle only if there was one. -/
theorem analyzeFields_delete (title : Value) :
    ((∀ field ∈ store.fields, field.IsAnalysable) →
        ∃ before, analyzeFields title store.fields = .ok before) ∧
      ∀ before, analyzeFields title store.fields = .ok before →
        ∃ after, analyzeFields title (store.delete (.str id)).state.fields = .ok after ∧
          after.danglingReferences = before.danglingReferences.erase id ∧
          after.selfReferences = before.selfReferences.filter (· != id) ∧
          after.duplicateIds = [] ∧ after.orderIsContiguous = true ∧
          (after.hasCycles = true → before.hasCycles = true) := by
  refine ⟨exists_analyzeFields title, fun before analyzed => ?_⟩
  obtain ⟨after, analyzedAfter⟩ := exists_analyzeFields_delete orderly onTexts stored analyzed
  have tellsBefore := tellsOf_of_analyzeFields analyzed
  have tellsAfter := tellsOf_of_analyzeFields analyzedAfter
  have orderlyAfter := orderly.delete (.str id)
  have left := conditionsOf_delete orderly onTexts stored
  have ids : (store.delete (.str id)).state.fields.map (·.id) =
      (store.fields.map (·.id)).filter (· != id) :=
    (fieldIds_delete store id).trans (orderly.distinct.erase_eq_filter id)
  have known : id ∈ store.fields.map (·.id) := stored
  have proper : ∀ condition ∈ conditionsOf store.fields, ∃ rule, condition.2 = .proper rule :=
    forall_mem_conditionsOf.mpr fun field member entry inField =>
      (onTexts field member entry inField).imp fun _ => And.left
  refine ⟨after, analyzedAfter, ?dangling, ?selves, ?duplicates, ?contiguous, fun cycles => ?_⟩
  case dangling =>
    rw [tellsAfter.danglingReferences, tellsBefore.danglingReferences, ids, left,
      missingTriggers_conditionsLeft known proper, Table.erase_pushAll]
    rfl
  case selves =>
    rw [tellsAfter.selfReferences, tellsBefore.selfReferences, left,
      ownTriggers_conditionsLeft proper, filter_foldl_addOnce, List.filter_nil]
  case duplicates =>
    rw [tellsAfter.duplicateIds]
    exact duplicateIds_eq_nil_iff.mpr orderlyAfter.distinct
  case contiguous =>
    exact (contiguous_iff (fun _ => orderlyAfter.placed.order_of_mem) tellsAfter.orders).mpr
      orderlyAfter.placed.enumerated
  obtain ⟨shown, returns⟩ := tellsAfter.cycles.mp cycles
  have showedBefore : ∀ trigger other,
      Shows (store.delete (.str id)).state.fields trigger other →
        Shows store.fields trigger other :=
    fun _ _ shows => shows.of_conditionsLeft (ids ▸ List.filter_sublist.subset) left
  exact tellsBefore.cycles.mpr ⟨shown, Relation.TransGen.mono showedBefore _ _ returns⟩

end

/-- Three questions of which the first two show each other, the first and the last refer to a
question that is not there, and all refer to themselves. -/
def entangled : FieldStore where
  ids := .endingWith ["d"]
  fields := [.askedAfter "a" ["b", "gone", "a"] 0, .askedAfter "b" ["a", "b"] 1,
    .askedAfter "c" ["gone", "a", "c", "b"] 2]

theorem orderly_entangled : entangled.Orderly where
  distinct := by decide
  placed := by
    intro position field found
    match position with
    | 0 | 1 | 2 =>
      obtain rfl := Option.some.inj found
      rfl
    | _ + 3 => cases found
  selectedStored := nofun

/-- Without the first of them, what is told of the last one stays and nothing comes to it. -/
theorem analyzeFields_delete_entangled :
    ∃ before after, analyzeFields (.str "") entangled.fields = .ok before ∧
      analyzeFields (.str "") (entangled.delete (.str "a")).state.fields = .ok after ∧
      before.danglingReferences = ⟨[("a", [.str "gone"]), ("c", [.str "gone"])]⟩ ∧
      after.danglingReferences = ⟨[("c", [.str "gone"])]⟩ ∧
      before.selfReferences = ["a", "b", "c"] ∧ after.selfReferences = ["b", "c"] ∧
      after.duplicateIds = [] ∧ after.orderIsContiguous = true ∧
      (after.hasCycles = true → before.hasCycles = true) := by
  have analysable : ∀ field ∈ entangled.fields, field.IsAnalysable := by
    simp [entangled, Field.isAnalysable_askedAfter]
  have onTexts : ∀ field ∈ entangled.fields, ∀ entry ∈ field.conditionalRules,
      ∃ rule, entry = .proper rule ∧ rule.trigger.IsText := by
    intro field member entry inField
    obtain ⟨rule, same, isText, -⟩ := (analysable field member).conditionalRules entry inField
    exact ⟨rule, same, isText⟩
  have stored : "a" ∈ entangled.fieldIds := by decide
  obtain ⟨possible, compare⟩ := analyzeFields_delete orderly_entangled onTexts stored (.str "")
  obtain ⟨before, analyzed⟩ := possible analysable
  obtain ⟨after, analyzedAfter, dangling, selves, rest⟩ := compare before analyzed
  have tells := tellsOf_of_analyzeFields analyzed
  have danglingBefore : before.danglingReferences =
      ⟨[("a", [.str "gone"]), ("c", [.str "gone"])]⟩ :=
    tells.danglingReferences.trans (by decide +kernel)
  have selvesBefore : before.selfReferences = ["a", "b", "c"] :=
    tells.selfReferences.trans (by decide +kernel)
  refine ⟨before, after, analyzed, analyzedAfter, danglingBefore, ?_, selvesBefore, ?_, rest⟩
  · rw [dangling, danglingBefore]
    rfl
  · rw [selves, selvesBefore]
    rfl

end FieldStore

end FormEngine
