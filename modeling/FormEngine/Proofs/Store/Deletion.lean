import FormEngine.Proofs.Permutation
import FormEngine.Proofs.Store.Failure
import FormEngine.Proofs.Store.Order

/-!
# Deleting a field

A deletion takes a field out of the list, numbers the others, and drops the conditions on it from
one of them after the other. The first stray value among their conditions ends this, when the field
is gone already. A condition on a field that is gone is met by all answers, so that the fields are
evaluated to the same whether such conditions are dropped or left behind.
-/

namespace FormEngine

/-- The field without its conditions on an id. -/
def Field.scrubbed (id : String) (field : Field) : Field :=
  { field with conditionalRules := field.conditionalRules.filter (Entry.sparedBy id) }

/-- The first stray value among the conditions of a field. -/
def Field.strayCondition? (field : Field) : Option Value :=
  field.conditionalRules.findSome? fun
    | .proper _ => none
    | .stray value => some value

/-- A field without stray values has conditions only. -/
theorem Field.strayCondition?_eq_none_iff {field : Field} :
    field.strayCondition? = none ↔ field.HasProperConditions := by
  rw [strayCondition?, List.findSome?_eq_none_iff]
  refine forall₂_congr fun entry _ => ?_
  cases entry <;> simp

instance (field : Field) : Decidable field.HasProperConditions :=
  decidable_of_iff (field.strayCondition?.isNone = true)
    (Option.isNone_iff_eq_none.trans Field.strayCondition?_eq_none_iff)

namespace FieldStore

/-- Scrubbing a field fails on its first stray condition. -/
theorem scrubField_eq_error (id : String) {field : Field} {value : Value}
    (stray : field.strayCondition? = some value) :
    scrubField id field = .error (.missingPart value.kindName "trigger_field_id") := by
  obtain ⟨before, entry, after, split, isStray, proper⟩ := List.findSome?_eq_some_iff.mp stray
  rw [scrubField, split, Result.filterM_eq_error (fun earlier member => ?judged)]
  case judged =>
    cases earlier with
    | proper rule => exact ⟨_, rfl⟩
    | stray other => cases proper _ member
  · rfl
  · cases entry with
    | proper rule => cases isStray
    | stray other =>
      obtain rfl := Option.some.inj isStray
      rfl

/-- Scrubbing gets as far as the first field with a stray condition. -/
theorem scrub_append (id : String) {before : List Field} {field : Field} {value : Value}
    (proper : ∀ earlier ∈ before, earlier.HasProperConditions)
    (stray : field.strayCondition? = some value) (after : List Field) :
    scrub id (before ++ field :: after) =
      ⟨.error (.missingPart value.kindName "trigger_field_id"),
        before.map (Field.scrubbed id) ++ field :: after⟩ := by
  induction before with
  | nil => simp [scrub, scrubField_eq_error id stray]
  | cons earlier rest inductionHypothesis =>
    have later := inductionHypothesis fun other member => proper other (.tail _ member)
    simp [scrub, scrubField_eq id (proper earlier (.head _)), later, Field.scrubbed]

/-- The fields of a store but the one with an id. -/
def fieldsWithout (store : FieldStore) (id : String) : List Field :=
  store.fields.filter (·.id != id)

/-- A store that has lost a field and all that is known of it, with what became of the others. -/
def afterDeletion (store : FieldStore) (id : String) (fields : List Field) : FieldStore :=
  { store with
    fields
    selected := if store.selected = some id then none else store.selected
    preview := store.preview.forget id }

/-- What deleting the field with an id may come to. -/
inductive Deletion (store : FieldStore) : Value → Outcome FieldStore Nat → Prop
  /-- There is no such field, and nothing changes. -/
  | absent {id : Value} (absent : ∀ text, id = .str text → text ∉ store.fieldIds) :
      Deletion store id ⟨.error (Fault.unknownField id).told, store⟩
  /-- The field is gone, and so are all conditions on it. -/
  | complete {id : String} (stored : id ∈ store.fieldIds) {remaining : List Field}
      (numbered : remaining = renumber (store.fieldsWithout id))
      (proper : ∀ field ∈ remaining, field.HasProperConditions) :
      Deletion store (.str id)
        ⟨.ok (conditionCount remaining - conditionCount (remaining.map (Field.scrubbed id))),
          store.afterDeletion id (remaining.map (Field.scrubbed id))⟩
  /-- The field is gone, and so are the conditions on it before the first stray value, but no
  others. -/
  | interrupted {id : String} (stored : id ∈ store.fieldIds) {before after : List Field}
      {field : Field} {value : Value}
      (numbered : before ++ field :: after = renumber (store.fieldsWithout id))
      (proper : ∀ earlier ∈ before, earlier.HasProperConditions)
      (stray : field.strayCondition? = some value) :
      Deletion store (.str id) ⟨.error (.missingPart value.kindName "trigger_field_id"),
        store.afterDeletion id (before.map (Field.scrubbed id) ++ field :: after)⟩

/-- Where ids are distinct, the fields but the first one with an id are those without it. -/
theorem eraseIdx_eq_filter {fields : List Field} {id : String} {index : Nat}
    (distinctIds : (fields.map (·.id)).Nodup)
    (located : fields.findIdx? (·.id == id) = some index) :
    fields.eraseIdx index = fields.filter (·.id != id) := by
  induction fields generalizing index with
  | nil => cases located
  | cons field rest inductionHypothesis =>
    obtain ⟨unlike, restDistinct⟩ := List.nodup_cons.mp distinctIds
    rw [List.findIdx?_cons] at located
    by_cases same : field.id = id
    · subst same
      obtain rfl : 0 = index := by simpa using located
      have others : rest.filter (·.id != field.id) = rest := by
        refine List.filter_eq_self.mpr fun other member => ?_
        simpa using fun sameId => unlike (List.mem_map.mpr ⟨other, member, sameId⟩)
      simp [others]
    · simp only [beq_iff_eq, same, if_false, Option.map_eq_some_iff] at located
      obtain ⟨later, isLater, rfl⟩ := located
      simp [same, inductionHypothesis restDistinct isLater]

/-- Deleting a stored field takes it out, numbers the others and scrubs them. -/
theorem delete_of_mem {store : FieldStore} (distinctIds : store.fieldIds.Nodup) {id : String}
    (stored : id ∈ store.fieldIds) :
    store.delete (.str id) =
      let remaining := renumber (store.fieldsWithout id)
      let scrubbed := scrub id remaining
      ⟨scrubbed.result.map fun _ => conditionCount remaining - conditionCount scrubbed.state,
        store.afterDeletion id scrubbed.state⟩ := by
  obtain ⟨field, member, isId⟩ := List.mem_map.mp stored
  have isThere : (store.fields.findIdx? (·.id == id)).isSome = true := by
    rw [List.findIdx?_isSome, List.any_eq_true]
    exact ⟨field, member, by simpa using isId⟩
  obtain ⟨index, located⟩ := Option.isSome_iff_exists.mp isThere
  have isIndex : store.indexOf (.str id) = .ok index := by simp [indexOf, Value.text?, located]
  simp only [delete, isIndex, eraseIdx_eq_filter distinctIds located, fieldsWithout, afterDeletion]

/-- Numbered fields have conditions only if the fields of the store have. -/
theorem hasProperConditions_remaining {store : FieldStore}
    (proper : ∀ field ∈ store.fields, field.HasProperConditions) (id : String) :
    ∀ field ∈ renumber (store.fieldsWithout id), field.HasProperConditions := by
  intro field member
  obtain ⟨original, inFields, position, rfl⟩ := mem_renumber member
  exact proper original (List.mem_of_mem_filter inFields)

/-- Deleting a stored field from others whose conditions are conditions drops all those on it. -/
theorem delete_of_proper {store : FieldStore} (distinctIds : store.fieldIds.Nodup) {id : String}
    (stored : id ∈ store.fieldIds) {remaining : List Field}
    (numbered : remaining = renumber (store.fieldsWithout id))
    (proper : ∀ field ∈ remaining, field.HasProperConditions) :
    store.delete (.str id) =
      ⟨.ok (conditionCount remaining - conditionCount (remaining.map (Field.scrubbed id))),
        store.afterDeletion id (remaining.map (Field.scrubbed id))⟩ := by
  subst numbered
  have scrubbed := scrub_eq id proper
  rw [delete_of_mem distinctIds stored]
  simp only [scrubbed]
  rfl

/-- Without a field to delete nothing changes. -/
theorem delete_of_not_mem {store : FieldStore} {id : String} (absent : id ∉ store.fieldIds) :
    store.delete (.str id) = ⟨.error (Fault.unknownField (.str id)).told, store⟩ := by
  have located : store.fields.findIdx? (·.id == id) = none := by
    simpa [List.findIdx?_eq_none_iff, fieldIds] using absent
  have unknown : store.indexOf (.str id) = .error (Fault.unknownField (.str id)).told := by
    simp [indexOf, Value.text?, located]
  simp only [delete, unknown]

/-- A deletion is one of those described, whatever conditions the fields have. -/
theorem deletion {store : FieldStore} (distinctIds : store.fieldIds.Nodup) (id : Value) :
    store.Deletion id (store.delete id) := by
  cases id with
  | str text =>
    by_cases stored : text ∈ store.fieldIds
    · cases stray : (renumber (store.fieldsWithout text)).findSome? Field.strayCondition? with
      | none =>
        have proper : ∀ field ∈ renumber (store.fieldsWithout text), field.HasProperConditions :=
          fun field member =>
            Field.strayCondition?_eq_none_iff.mp (List.findSome?_eq_none_iff.mp stray field member)
        rw [delete_of_proper distinctIds stored rfl proper]
        exact .complete stored rfl proper
      | some value =>
        obtain ⟨before, field, after, split, isStray, proper⟩ := List.findSome?_eq_some_iff.mp stray
        have isProper : ∀ earlier ∈ before, earlier.HasProperConditions := fun earlier member =>
          Field.strayCondition?_eq_none_iff.mp (proper earlier member)
        have scrubbed := scrub_append text isProper isStray after
        rw [delete_of_mem distinctIds stored]
        simp only [split, scrubbed]
        exact .interrupted stored split.symm isProper isStray
    · rw [delete_of_not_mem stored]
      refine .absent ?_
      rintro other ⟨⟩
      exact stored
  | _ => exact .absent fun _ isText => nomatch isText

/-- Dropping the conditions on an id that no field has is not noticed. -/
theorem evaluate_map_scrubbed {fields : List Field} {id : String} (absent : id ∉ fields.map (·.id))
    (proper : ∀ field ∈ fields, field.HasProperConditions) (answers : Answers) :
    evaluate (fields.map (Field.scrubbed id)) answers = evaluate fields answers := by
  have idle : ∀ rule : ConditionalRule, (rule.trigger == .str id) = true →
      rule.isMet fields answers = .ok true := by
    intro rule onId
    refine rule.isMet_of_isInert ?_ answers
    have isTrigger : rule.trigger = .str id := by simpa using onId
    have dangles : rule.dangles (fields.map (·.id)) = true := by
      simpa [ConditionalRule.dangles, isTrigger, Value.text?] using absent
    simp [ConditionalRule.isInert, ConditionalRule.isBroken, dangles, isTrigger, Value.unkeyable?]
  have without : fields.map (Field.scrubbed id) =
      fields.map (Field.without (fun _ => false) (·.trigger == .str id)) := by
    refine List.map_congr_left fun field member => ?_
    have spared : ∀ entry ∈ field.conditionalRules,
        entry.sparedBy id = !entry.proper?.any (·.trigger == .str id) := by
      intro entry inField
      obtain ⟨rule, rfl⟩ := proper field member entry inField
      rfl
    simp [Field.scrubbed, Field.without, List.filter_congr spared]
  rw [without]
  exact (unnoticed_without (by simp) idle).evaluate_map

/-- Numbering is not noticed. -/
theorem evaluate_renumber (fields : List Field) (answers : Answers) :
    evaluate (renumber fields) answers = evaluate fields answers := by
  rw [← (unnoticed_unplaced (renumber fields) answers).evaluate_map, map_unplaced_renumber,
    (unnoticed_unplaced fields answers).evaluate_map]

/-- Deleting a field is to leave the conditions on it behind: the remaining fields differ from what
they were in their orders and in that they have no such conditions, and they are evaluated to the
same by all answers. -/
theorem evaluate_delete {store : FieldStore} (distinctIds : store.fieldIds.Nodup)
    (proper : ∀ field ∈ store.fields, field.HasProperConditions) {id : String}
    (stored : id ∈ store.fieldIds) :
    (∃ count, (store.delete (.str id)).result = .ok count) ∧
      (store.delete (.str id)).state.fields =
        (store.fields.filter (·.id != id)).mapIdx (fun position field => { field with
          order := .int position
          conditionalRules := field.conditionalRules.filter (Entry.sparedBy id) }) ∧
      ∀ answers, evaluate (store.delete (.str id)).state.fields answers =
        evaluate (store.fields.filter (·.id != id)) answers := by
  have remainingProper := hasProperConditions_remaining proper id
  have absent : id ∉ (renumber (store.fieldsWithout id)).map (·.id) := by
    simp [fieldsWithout]
  rw [delete_of_proper distinctIds stored rfl remainingProper]
  simp only [afterDeletion]
  refine ⟨⟨_, rfl⟩, ?fields, fun answers => ?evaluation⟩
  case fields =>
    refine List.ext_getElem? fun position => ?_
    simp only [renumber, fieldsWithout, List.getElem?_map, List.getElem?_mapIdx, Option.map_map]
    rfl
  case evaluation =>
    rw [evaluate_map_scrubbed absent remainingProper, evaluate_renumber, fieldsWithout]

/-- A field with conditions on two fields keeps those on the other one, and a field with conditions
on the deleted one only keeps none. -/
theorem evaluate_delete_severalTriggers :
    let on (trigger : String) (operator : Operator) : Entry ConditionalRule :=
      .proper { trigger := .str trigger, operator := .known operator }
    let store : FieldStore := {
      ids := .endingWith ["d"]
      fields := [
        { type := .checkbox, label := .str "Guest", id := "a", order := .int 0 },
        { type := .text, label := .str "Name", id := "b", order := .int 1,
          conditionalRules := [on "c" .empty, on "a" .notEmpty, on "e" .equals] },
        { type := .text, label := .str "Menu", id := "c", order := .int 2,
          conditionalRules := [on "a" .notEmpty, on "a" .equals] }] }
    (store.delete (.str "a")).state.fields.map (·.conditionalRules) =
        [[on "c" .empty, on "e" .equals], []] ∧
      ∀ answers, evaluate (store.delete (.str "a")).state.fields answers =
        evaluate (store.fields.filter (·.id != "a")) answers := by
  intro on store
  have distinctIds : store.fieldIds.Nodup := by decide
  have proper : ∀ field ∈ store.fields, field.HasProperConditions := by decide
  have stored : "a" ∈ store.fieldIds := by decide
  obtain ⟨-, -, sameEvaluation⟩ := evaluate_delete distinctIds proper stored
  exact ⟨by decide +kernel, sameEvaluation⟩

end FieldStore

end FormEngine
