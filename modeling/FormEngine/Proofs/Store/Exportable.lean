import FormEngine.Proofs.Document.Exportable
import FormEngine.Proofs.Store.Failure
import FormEngine.Proofs.Store.Options

/-!
# A store whose fields can be exported

Fields are made with ids that are drawn and with the options that they need. Where the attributes
that are given have the right types, the fields of a store can be exported after every operation if
they could before.
-/

namespace FormEngine

namespace Field.IsExportable

/-- The position of a field has no part in whether it can be exported. -/
theorem withOrder {field : Field} (exportable : field.IsExportable) (position : Nat) :
    (field.withOrder position).IsExportable :=
  ⟨exportable.id, exportable.options, exportable.content⟩

/-- The conditions of a field that can be exported are conditions. -/
theorem hasProperConditions {field : Field} (exportable : field.IsExportable) :
    field.HasProperConditions := by
  intro entry member
  have proper := exportable.content.conditionalRules entry member
  cases entry with
  | proper rule => exact ⟨rule, rfl⟩
  | stray value => exact proper.elim

/-- A field that can be exported can be exported with fewer conditions. -/
theorem filterConditions {field : Field} (exportable : field.IsExportable)
    (keep : Entry ConditionalRule → Bool) :
    ({ field with
      conditionalRules := field.conditionalRules.filter keep } : Field).IsExportable where
  id := exportable.id
  options := exportable.options
  content := { exportable.content with
    conditionalRules := fun entry member =>
      exportable.content.conditionalRules entry (List.mem_of_mem_filter member) }

end Field.IsExportable

/-- Numbered fields can be exported if the fields could that were numbered. -/
theorem exportable_renumber {fields : List Field}
    (exportable : ∀ field ∈ fields, field.IsExportable) :
    ∀ field ∈ renumber fields, field.IsExportable := by
  intro field member
  obtain ⟨original, inFields, position, rfl⟩ := mem_renumber member
  exact (exportable original inFields).withOrder position

namespace FieldStore

/-- A store whose fields can be exported, in order, with ids from a given source. -/
structure IsExportable (ids : IdSource) (store : FieldStore) : Prop where
  stream : store.ids.stream = ids.stream
  orderly : store.Orderly
  fields : ∀ field ∈ store.fields, field.IsExportable

/-- A store without fields can be exported. -/
theorem isExportable_empty (ids : IdSource) : ({ ids } : FieldStore).IsExportable ids where
  stream := rfl
  orderly := orderly_empty ids
  fields := fun _ member => by cases member

namespace IsExportable

variable {ids : IdSource} {store after : FieldStore} {attributes : Attributes}
variable (exportable : store.IsExportable ids)
include exportable

/-- Nothing but the source of ids, the order and the fields matters. -/
theorem of_same (stream : after.ids.stream = store.ids.stream) (fields : after.fields = store.fields)
    (orderly : after.Orderly) : after.IsExportable ids where
  stream := stream.trans exportable.stream
  orderly := orderly
  fields := fields ▸ exportable.fields

/-- A store can be exported with any other preview. -/
theorem withPreview (preview : Preview) : ({ store with preview } : FieldStore).IsExportable ids :=
  exportable.of_same rfl rfl
    ⟨exportable.orderly.distinct, exportable.orderly.placed, exportable.orderly.selectedStored⟩

/-- A store can be exported after ids were drawn from its source. -/
theorem withIds {rest : IdSource} (stream : rest.stream = store.ids.stream) :
    ({ store with ids := rest } : FieldStore).IsExportable ids :=
  exportable.of_same stream rfl
    ⟨exportable.orderly.distinct, exportable.orderly.placed, exportable.orderly.selectedStored⟩

/-- A store can be exported after a field was added by typed attributes. -/
theorem add (named : ∀ index, ids.stream index ≠ "") (type : Value)
    (given : ∀ part ∈ attributes, part.IsTyped) :
    (store.add type attributes).state.IsExportable ids := by
  have orderly := exportable.orderly.add type attributes
  generalize outcome : store.add type attributes = came at orderly ⊢
  cases outcome ▸ store.addition type attributes with
  | refused => exact exportable
  | exhausted => exact exportable.withIds rfl
  | @added _ _ index _ _ new =>
    refine ⟨exportable.stream, orderly, fun field member => ?_⟩
    rcases List.mem_append.mp member with before | isNew
    · exact exportable.fields field before
    · obtain rfl := List.mem_singleton.mp isNew
      exact {
        id := by
          change store.ids.stream (store.ids.drawn + index) ≠ ""
          rw [exportable.stream]
          exact named _
        options := new.options_ne_nil_iff.mpr
        content := new.isTyped given }

/-- A store can be exported after a field was changed by typed attributes. -/
theorem update {id : Value} (given : ∀ part ∈ attributes, part.IsTyped) {field : Field}
    (done : store.update id attributes = .ok (field, after)) : after.IsExportable ids := by
  have orderly := exportable.orderly.update done
  obtain ⟨-, place, before, first, -, sameId, -, merges, rfl⟩ := update_eq_ok_iff.mp done
  have wasExportable := exportable.fields before (List.mem_of_getElem? first.there)
  refine ⟨exportable.stream, orderly, fun other member => ?_⟩
  rcases List.mem_or_eq_of_mem_set member with wasThere | rfl
  · exact exportable.fields other wasThere
  · exact {
      id := sameId ▸ wasExportable.id
      options := merges.options_ne_nil
      content := wasExportable.content.overlaid given merges.toOverlays }

/-- A store can be exported after a field was deleted. -/
theorem delete (id : Value) : (store.delete id).state.IsExportable ids := by
  refine ⟨?stream, exportable.orderly.delete id, ?fields⟩
  case stream =>
    unfold FieldStore.delete
    split <;> exact exportable.stream
  case fields =>
    unfold FieldStore.delete
    split
    · next index text found =>
      have remaining : ∀ field ∈ renumber (store.fields.eraseIdx index), field.IsExportable :=
        exportable_renumber fun field member =>
          exportable.fields field (List.mem_of_mem_eraseIdx member)
      have scrubbed := scrub_eq text fun field member =>
        (remaining field member).hasProperConditions
      simp only [scrubbed]
      intro field member
      obtain ⟨original, wasThere, rfl⟩ := List.mem_map.mp member
      exact (remaining original wasThere).filterConditions _
    · exact exportable.fields
    · exact exportable.fields

/-- A store can be exported after a field was moved. -/
theorem move {source target : Value} (done : store.move source target = .ok after) :
    after.IsExportable ids := by
  have orderly := exportable.orderly.move done
  obtain ⟨moved, permuted, rfl⟩ := move_eq_ok done
  exact ⟨exportable.stream, orderly,
    exportable_renumber fun field member => exportable.fields field (permuted.subset member)⟩

/-- A store can be exported after a field or none was selected. -/
theorem select {id : Value} (done : store.select id = .ok after) : after.IsExportable ids := by
  refine exportable.of_same ?_ (fields_of_select done) (exportable.orderly.select done)
  obtain ⟨selected, -, rfl⟩ := select_eq_ok done
  rfl

end IsExportable

end FieldStore

end FormEngine
