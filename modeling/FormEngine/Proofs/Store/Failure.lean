import FormEngine.Proofs.Field.Numbering
import FormEngine.Proofs.Store.Adding

/-!
# Failing operations of a store

Deleting a field drops the conditions on it from the other fields, and stops at the first of them
that is no condition. Where all conditions are conditions, it fails only if there is nothing to
delete. An addition that fails may have used up ids.
-/

namespace FormEngine

/-- All conditions of a field are conditions. -/
def Field.HasProperConditions (field : Field) : Prop :=
  ∀ entry ∈ field.conditionalRules, ∃ rule, entry = .proper rule

/-- Whether an entry is a condition on something else than an id. -/
def Entry.sparedBy (id : String) : Entry ConditionalRule → Bool
  | .proper rule => rule.trigger != .str id
  | .stray _ => false

namespace FieldStore

/-- Scrubbing a field whose conditions are conditions keeps those on other ids. -/
theorem scrubField_eq (id : String) {field : Field} (proper : field.HasProperConditions) :
    scrubField id field = .ok { field with
      conditionalRules := field.conditionalRules.filter (Entry.sparedBy id) } := by
  have judged : ∀ entry ∈ field.conditionalRules, (do
      let rule ← entry.conditionOf
      return rule.trigger != Value.str id) = Except.ok (Entry.sparedBy id entry) := by
    intro entry member
    obtain ⟨rule, rfl⟩ := proper entry member
    rfl
  rw [scrubField, Result.filterM_eq_ok judged]
  rfl

/-- Fields whose conditions are conditions can be scrubbed to the last. -/
theorem scrub_eq (id : String) {fields : List Field}
    (proper : ∀ field ∈ fields, field.HasProperConditions) :
    scrub id fields = ⟨.ok (), fields.map fun field =>
      { field with conditionalRules := field.conditionalRules.filter (Entry.sparedBy id) }⟩ := by
  induction fields with
  | nil => rfl
  | cons field rest inductionHypothesis =>
    have restScrubbed := inductionHypothesis fun other member => proper other (.tail _ member)
    simp [scrub, scrubField_eq id (proper field (.head _)), restScrubbed]

/-- A field is required by its id, and the id has an index. -/
theorem exists_indexOf {store : FieldStore} {id : Value} {field : Field}
    (found : store.requireField id = .ok field) :
    ∃ index, id = .str field.id ∧ store.indexOf id = .ok index := by
  unfold requireField at found
  split at found
  · next there =>
    obtain ⟨text, isText, isThere⟩ := Option.bind_eq_some_iff.mp there
    obtain rfl : id = .str text := by
      cases id <;> simp_all [Value.text?]
    obtain rfl := Except.ok.inj found
    have hasId := List.find?_some isThere
    cases located : store.fields.findIdx? (·.id == text) with
    | none =>
      have absent := List.findIdx?_eq_none_iff.mp located _ (List.mem_of_find?_eq_some isThere)
      simp [hasId] at absent
    | some index =>
      rw [beq_iff_eq.mp hasId]
      exact ⟨index, rfl, by simp [indexOf, Value.text?, located]⟩
  · cases found

/-- In a store whose conditions are conditions, a deletion fails only where there is nothing to
delete. -/
theorem exists_delete {store : FieldStore} {id : Value} {field : Field}
    (proper : ∀ field ∈ store.fields, field.HasProperConditions)
    (found : store.requireField id = .ok field) :
    ∃ count, (store.delete id).result = .ok count := by
  obtain ⟨index, rfl, located⟩ := exists_indexOf found
  have remaining : ∀ other ∈ renumber (store.fields.eraseIdx index), other.HasProperConditions := by
    intro other member
    obtain ⟨original, inFields, position, rfl⟩ := mem_renumber member
    exact proper original (List.mem_of_mem_eraseIdx inFields)
  unfold FieldStore.delete
  rw [located]
  simp only [scrub_eq _ remaining, Except.map]
  exact ⟨_, rfl⟩

/-- An addition that fails may have used up ids, and nothing else. -/
theorem add_eq_error {store : FieldStore} {type : Value} {attributes : Attributes} {fault : Fault}
    (failed : (store.add type attributes).result = .error fault) :
    ∃ ids, (store.add type attributes).state = { store with ids } := by
  generalize outcome : store.add type attributes = came at failed ⊢
  cases outcome ▸ store.addition type attributes with
  | refused | exhausted => exact ⟨_, rfl⟩
  | added => cases failed

end FieldStore

end FormEngine
