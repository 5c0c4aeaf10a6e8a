import FormEngine.Proofs.Store.Order
import FormEngine.Proofs.Table

/-!
# What a store has in its preview

Answers and messages are kept by field id. A store that has only its own fields in its preview keeps
it so: a field that is deleted takes its answer and its message with it, all go when the fields are
replaced, and no other operation takes a field away.
-/

namespace FormEngine

namespace Preview

/-- A preview holds answers and messages of fields with certain ids only. -/
structure IsAbout (ids : List String) (preview : Preview) : Prop where
  answers : preview.answers.keys ⊆ ids
  errors : preview.errors.keys ⊆ ids

variable {ids others : List String} {preview : Preview} {id : String}

/-- Nothing is kept in an empty preview. -/
theorem isAbout_empty (ids : List String) : ({} : Preview).IsAbout ids :=
  ⟨List.nil_subset ids, List.nil_subset ids⟩

/-- More ids do no harm. -/
theorem IsAbout.mono (about : preview.IsAbout ids) (subset : ids ⊆ others) :
    preview.IsAbout others :=
  ⟨List.Subset.trans about.answers subset, List.Subset.trans about.errors subset⟩

/-- An answer to one of the fields may be recorded. -/
theorem IsAbout.answer (about : preview.IsAbout ids) (known : id ∈ ids) (value : Value) :
    (preview.answer id value).IsAbout ids where
  answers := by
    intro other isKey
    rcases Table.mem_keys_insert isKey with rfl | before
    · exact known
    · exact about.answers before
  errors := fun _ isKey => about.errors (Table.mem_keys_erase.mp isKey).1

/-- What is forgotten need not be among the ids any more. -/
theorem IsAbout.forget (about : preview.IsAbout ids)
    (others_of_ne : ∀ other ∈ ids, other ≠ id → other ∈ others) :
    (preview.forget id).IsAbout others where
  answers := fun other isKey => by
    obtain ⟨before, different⟩ := Table.mem_keys_erase.mp isKey
    exact others_of_ne other (about.answers before) different
  errors := fun other isKey => by
    obtain ⟨before, different⟩ := Table.mem_keys_erase.mp isKey
    exact others_of_ne other (about.errors before) different

end Preview

namespace FieldStore

/-- All that the preview holds is about fields of the store. -/
def PreviewsOwn (store : FieldStore) : Prop :=
  store.preview.IsAbout store.fieldIds

namespace PreviewsOwn

variable {store after : FieldStore} (own : store.PreviewsOwn)
include own

/-- It stays so under an operation that keeps the preview and takes no field away. -/
theorem of_subset (preview : after.preview = store.preview) (ids : store.fieldIds ⊆ after.fieldIds) :
    after.PreviewsOwn := by
  rw [PreviewsOwn, preview]
  exact Preview.IsAbout.mono own ids

/-- Adding a field, or failing to, takes none away. -/
theorem add (type : Value) (attributes : Attributes) :
    (store.add type attributes).state.PreviewsOwn := by
  generalize outcome : store.add type attributes = came
  cases outcome ▸ store.addition type attributes with
  | refused | exhausted => exact own
  | added => exact own.of_subset rfl (by simp)

/-- Changing a field leaves it its id. -/
theorem update {id : Value} {attributes : Attributes} {field : Field}
    (done : store.update id attributes = .ok (field, after)) : after.PreviewsOwn := by
  have sameIds := fieldIds_update done
  obtain ⟨-, _, _, -, -, -, -, -, rfl⟩ := update_eq_ok_iff.mp done
  exact own.of_subset rfl (by rw [sameIds]; exact List.Subset.refl _)

/-- A field that is deleted is forgotten, even where scrubbing the conditions on it stops. -/
theorem delete (id : Value) : (store.delete id).state.PreviewsOwn := by
  cases found : store.indexOf id with
  | error fault => simpa only [FieldStore.delete, found] using own
  | ok index =>
    cases id with
    | str text =>
      have others (other : String) (isId : other ∈ store.fieldIds) (different : other ≠ text) :
          other ∈ (store.delete (.str text)).state.fieldIds :=
        mem_fieldIds_delete isId (by simpa using different.symm)
      simp only [FieldStore.delete, found] at others ⊢
      exact Preview.IsAbout.forget own others
    | _ => simpa only [FieldStore.delete, found] using own

/-- Moving a field keeps all of them. -/
theorem move {source target : Value} (done : store.move source target = .ok after) :
    after.PreviewsOwn := by
  have sameIds := fieldIds_move done
  obtain ⟨moved, -, rfl⟩ := move_eq_ok done
  exact own.of_subset rfl sameIds.symm.subset

/-- Selecting a field or none changes none. -/
theorem select {id : Value} (done : store.select id = .ok after) : after.PreviewsOwn := by
  obtain ⟨selected, -, rfl⟩ := select_eq_ok done
  exact own

/-- An answer may be recorded to a field of the store. -/
theorem answer {field : Field} (member : field ∈ store.fields) (value : Value) :
    ({ store with preview := store.preview.answer field.id value } : FieldStore).PreviewsOwn :=
  Preview.IsAbout.answer own (List.mem_map_of_mem member) value

end PreviewsOwn

/-- Replacing the fields empties the preview, whatever was in it. -/
theorem previewsOwn_of_replace {store after : FieldStore} {fields : List Field}
    (done : store.replace fields = .ok after) : after.PreviewsOwn := by
  obtain ⟨sorted, -, -, rfl⟩ := replace_eq_ok done
  exact Preview.isAbout_empty _

end FieldStore

end FormEngine
