import FormEngine.Proofs.Field.Numbering
import FormEngine.Proofs.Sorting
import FormEngine.Proofs.Store.Adding
import FormEngine.Proofs.Store.Merging
import FormEngine.Store.Run
import Mathlib.Data.List.Perm.Basic

/-!
# The order of a field store

A store is orderly if no two fields share an id, every field has its place as its order, and the
selection is a field of the store. Every operation keeps this, and a refused one does too, so that
every state of every run is orderly.
-/

namespace FormEngine

namespace FieldStore

/-- Scrubbing a field changes nothing but its conditions. -/
theorem scrubField_eq_ok {id : String} {field scrubbed : Field}
    (done : scrubField id field = .ok scrubbed) :
    ∃ kept, scrubbed = { field with conditionalRules := kept } := by
  obtain ⟨kept, -, same⟩ := Result.bind_eq_ok_iff.1 done
  exact ⟨kept, (Except.ok.inj same).symm⟩

/-- However far scrubbing gets, it changes no id. -/
@[simp] theorem map_id_scrub (id : String) (fields : List Field) :
    (scrub id fields).state.map (·.id) = fields.map (·.id) := by
  induction fields with
  | nil => rfl
  | cons field rest inductionHypothesis =>
      simp only [scrub]
      split
      · rfl
      · next scrubbed done =>
        obtain ⟨kept, rfl⟩ := scrubField_eq_ok done
        rw [List.map_cons, inductionHypothesis, List.map_cons]

/-- However far scrubbing gets, it changes no order. -/
@[simp] theorem map_order_scrub (id : String) (fields : List Field) :
    (scrub id fields).state.map (·.order) = fields.map (·.order) := by
  induction fields with
  | nil => rfl
  | cons field rest inductionHypothesis =>
      simp only [scrub]
      split
      · rfl
      · next scrubbed done =>
        obtain ⟨kept, rfl⟩ := scrubField_eq_ok done
        rw [List.map_cons, inductionHypothesis, List.map_cons]

/-- Moving an item of a list loses none and adds none. -/
theorem moveItem_perm {α : Type} (items : List α) {source target : Nat}
    (sourceInside : source < items.length) (targetInside : target < items.length) :
    (moveItem items source target).Perm items := by
  have shortened : target ≤ (items.eraseIdx source).length := by
    rw [List.length_eraseIdx_of_lt sourceInside]
    omega
  simp only [moveItem, List.getElem?_eq_getElem sourceInside]
  exact (List.perm_insertIdx _ _ shortened).trans (List.getElem_cons_eraseIdx_perm sourceInside)

/-- A place that a value names lies inside the list. -/
theorem place_lt {moveEnd : MoveEnd} {index : Value} {size position : Nat}
    (named : place moveEnd index size = .ok position) : position < size := by
  unfold place at named
  split at named
  · split at named
    · next inside =>
      obtain rfl := Except.ok.inj named
      omega
    · cases named
  · cases named

/-- Fields without a repeated id have distinct ids, none of which was seen before. -/
theorem repeatedId?_eq_none_iff {seen : List String} {fields : List Field} :
    repeatedId? seen fields = none ↔
      (fields.map (·.id)).Nodup ∧ ∀ field ∈ fields, field.id ∉ seen := by
  induction fields generalizing seen with
  | nil => simp [repeatedId?]
  | cons field rest inductionHypothesis =>
      simp only [repeatedId?]
      split
      · next repeated => simp_all
      · next new =>
        rw [inductionHypothesis]
        simp only [List.contains_eq_mem, decide_eq_true_eq] at new
        grind

/-- A required field is a field of the store. -/
theorem requireField_mem {store : FieldStore} {id : Value} {field : Field}
    (found : store.requireField id = .ok field) : field ∈ store.fields := by
  unfold requireField at found
  split at found
  · next there =>
    obtain rfl := Except.ok.inj found
    obtain ⟨text, -, isThere⟩ := Option.bind_eq_some_iff.1 there
    exact List.mem_of_find?_eq_some isThere
  · cases found

/-- A move that is made puts the fields in another order and numbers them. -/
theorem move_eq_ok {store after : FieldStore} {source target : Value}
    (done : store.move source target = .ok after) :
    ∃ moved, moved.Perm store.fields ∧ after = { store with fields := renumber moved } := by
  simp only [FieldStore.move, Result.bind_eq_ok_iff] at done
  obtain ⟨sourcePlace, sourceNamed, targetPlace, targetNamed, same⟩ := done
  exact ⟨_, moveItem_perm store.fields (place_lt sourceNamed) (place_lt targetNamed),
    (Except.ok.inj same).symm⟩

/-- Selecting changes the selection and nothing else. What is selected is a field of the store. -/
theorem select_eq_ok {store after : FieldStore} {id : Value} (done : store.select id = .ok after) :
    ∃ selected, (∀ chosen, selected = some chosen → chosen ∈ store.fieldIds) ∧
      after = { store with selected } := by
  unfold FieldStore.select at done
  split at done
  · exact ⟨none, by simp, (Except.ok.inj done).symm⟩
  · obtain ⟨field, found, same⟩ := Result.bind_eq_ok_iff.mp done
    refine ⟨some field.id, fun chosen isChosen => ?_, (Except.ok.inj same).symm⟩
    obtain rfl := Option.some.inj isChosen
    exact List.mem_map_of_mem (requireField_mem found)

/-- Replacing puts the fields that are handed over, which have distinct ids, in another order and
numbers them. Nothing is selected then, and the preview is empty. -/
theorem replace_eq_ok {store after : FieldStore} {fields : List Field}
    (done : store.replace fields = .ok after) :
    ∃ sorted, sorted.Perm fields ∧ (sorted.map (·.id)).Nodup ∧
      after = { store with fields := renumber sorted, selected := none, preview := {} } := by
  obtain ⟨sorted, isSorted, rest⟩ := Result.bind_eq_ok_iff.mp done
  split at rest
  · cases rest
  · next unrepeated =>
    exact ⟨sorted, Sorting.perm_of_sort isSorted, (repeatedId?_eq_none_iff.mp unrepeated).1,
      (Except.ok.inj rest).symm⟩

/-- No two fields of the store share an id, the order of a field is its place, and the selection is
a field of the store. -/
structure Orderly (store : FieldStore) : Prop where
  distinct : store.fieldIds.Nodup
  placed : Placed store.fields
  selectedStored : ∀ id, store.selected = some id → id ∈ store.fieldIds

/-- A store without fields is orderly. -/
theorem orderly_empty (ids : IdSource) : ({ ids } : FieldStore).Orderly where
  distinct := List.nodup_nil
  placed := fun _ _ found => by cases found
  selectedStored := nofun

/-- An operation that keeps the ids and the orders, and leaves the selection as it is or moves it
to a stored field, keeps a store orderly. -/
theorem Orderly.of_same {store after : FieldStore} (orderly : store.Orderly)
    (ids : after.fieldIds = store.fieldIds)
    (orders : after.fields.map (·.order) = store.fields.map (·.order))
    (selection : ∀ id, after.selected = some id → id ∈ store.fieldIds) : after.Orderly where
  distinct := ids ▸ orderly.distinct
  placed := orderly.placed.of_orders orders
  selectedStored := fun id selected => ids ▸ selection id selected

/-- Adding a field puts its id behind the others, or changes none where it fails. -/
theorem fieldIds_add (store : FieldStore) (type : Value) (attributes : Attributes) :
    (store.add type attributes).state.fieldIds = store.fieldIds ∨
      ∃ id, (store.add type attributes).state.fieldIds = store.fieldIds ++ [id] := by
  generalize outcome : store.add type attributes = came
  cases outcome ▸ store.addition type attributes with
  | refused | exhausted => exact .inl rfl
  | added => exact .inr ⟨_, fieldIds_withNewField ..⟩

/-- Adding a field, or failing to, keeps a store orderly. -/
theorem Orderly.add {store : FieldStore} (orderly : store.Orderly) (type : Value)
    (attributes : Attributes) : (store.add type attributes).state.Orderly := by
  generalize outcome : store.add type attributes = came
  cases outcome ▸ store.addition type attributes with
  | refused => exact orderly
  | exhausted => exact orderly.of_same rfl rfl orderly.selectedStored
  | @added _ content index _ _ _ first =>
    refine ⟨?distinct, orderly.placed.append rfl, ?selected⟩
    case distinct =>
      rw [fieldIds_withNewField]
      refine List.nodup_append.mpr ⟨orderly.distinct, List.nodup_singleton _, ?_⟩
      intro id stored new isNew same
      rw [same, List.mem_singleton.mp isNew] at stored
      exact first.free stored
    case selected =>
      intro chosen selected
      obtain rfl := Option.some.inj selected
      rw [fieldIds_withNewField]
      exact List.mem_append_right _ (List.mem_singleton.mpr rfl)

/-- Changing a field changes no id. -/
theorem fieldIds_update {store after : FieldStore} {id : Value} {attributes : Attributes}
    {field : Field} (done : store.update id attributes = .ok (field, after)) :
    after.fieldIds = store.fieldIds := by
  obtain ⟨-, place, before, first, -, sameId, -, -, rfl⟩ := update_eq_ok_iff.mp done
  exact map_set_of_getElem? first.there sameId

/-- Changing the content of a field keeps a store orderly. -/
theorem Orderly.update {store after : FieldStore} (orderly : store.Orderly) {id : Value}
    {attributes : Attributes} {field : Field}
    (done : store.update id attributes = .ok (field, after)) : after.Orderly := by
  obtain ⟨-, place, before, first, -, sameId, sameOrder, -, rfl⟩ := update_eq_ok_iff.mp done
  exact orderly.of_same (map_set_of_getElem? first.there sameId)
    (map_set_of_getElem? first.there sameOrder) orderly.selectedStored

/-- Deleting a field takes its id away, and nothing is taken away where there is no such field. -/
theorem fieldIds_delete (store : FieldStore) (text : String) :
    (store.delete (.str text)).state.fieldIds = store.fieldIds.erase text := by
  have sameIndex : store.fieldIds.idxOf? text = store.fields.findIdx? (·.id == text) := by
    rw [List.idxOf?, fieldIds, List.findIdx?_map]
    rfl
  rw [List.erase_eq_eraseIdx, sameIndex]
  cases located : store.fields.findIdx? (·.id == text) with
  | none => simp only [FieldStore.delete, indexOf, Value.text?, Option.bind_some, located]
  | some index =>
      simp only [FieldStore.delete, indexOf, Value.text?, Option.bind_some, located, fieldIds,
        map_id_scrub, map_id_renumber, List.eraseIdx_map]

/-- Deleting takes away no id but the one that it is given. -/
theorem mem_fieldIds_delete {store : FieldStore} {id : Value} {other : String}
    (stored : other ∈ store.fieldIds) (different : id ≠ .str other) :
    other ∈ (store.delete id).state.fieldIds := by
  cases id with
  | str text =>
      rw [fieldIds_delete, List.mem_erase_of_ne (by simpa using different.symm)]
      exact stored
  | _ => exact stored

/-- Deleting a field keeps a store orderly, even where scrubbing the conditions on it stops. -/
theorem Orderly.delete {store : FieldStore} (orderly : store.Orderly) (id : Value) :
    (store.delete id).state.Orderly := by
  cases found : store.indexOf id with
  | error fault => simpa only [FieldStore.delete, found] using orderly
  | ok index =>
      cases id with
      | str text =>
          refine ⟨?_, ?_, fun selected isSelected => ?_⟩
          · rw [fieldIds_delete]
            exact orderly.distinct.erase text
          · simp only [FieldStore.delete, found]
            exact (placed_renumber _).of_orders (map_order_scrub ..)
          · simp only [FieldStore.delete, found] at isSelected
            split at isSelected
            · cases isSelected
            · next other =>
              refine mem_fieldIds_delete (orderly.selectedStored selected isSelected) ?_
              rintro ⟨⟩
              exact other isSelected
      | _ => simpa only [FieldStore.delete, found] using orderly

/-- Moving a field loses no id and adds none. -/
theorem fieldIds_move {store after : FieldStore} {source target : Value}
    (done : store.move source target = .ok after) : after.fieldIds.Perm store.fieldIds := by
  obtain ⟨moved, permuted, rfl⟩ := move_eq_ok done
  rw [fieldIds, map_id_renumber]
  exact permuted.map _

/-- Moving a field keeps a store orderly. -/
theorem Orderly.move {store after : FieldStore} (orderly : store.Orderly) {source target : Value}
    (done : store.move source target = .ok after) : after.Orderly := by
  have sameIds := fieldIds_move done
  obtain ⟨moved, -, rfl⟩ := move_eq_ok done
  exact ⟨sameIds.nodup_iff.2 orderly.distinct, placed_renumber _,
    fun id selected => sameIds.mem_iff.2 (orderly.selectedStored id selected)⟩

/-- Selecting a field or none keeps a store orderly. -/
theorem Orderly.select {store after : FieldStore} (orderly : store.Orderly) {id : Value}
    (done : store.select id = .ok after) : after.Orderly := by
  obtain ⟨selected, stored, rfl⟩ := select_eq_ok done
  exact orderly.of_same rfl rfl stored

/-- Replacing the fields makes a store orderly, whatever it was before. -/
theorem orderly_of_replace {store after : FieldStore} {fields : List Field}
    (done : store.replace fields = .ok after) : after.Orderly := by
  obtain ⟨sorted, -, distinct, rfl⟩ := replace_eq_ok done
  refine ⟨?_, placed_renumber _, nofun⟩
  rwa [fieldIds, map_id_renumber]

/-- An operation that either succeeds or leaves the store as it was keeps what it keeps where it
succeeds. -/
theorem keeps_ofExcept (kept : FieldStore → Prop) {store : FieldStore} (before : kept store)
    {α : Type} {result : Except Fault (α × FieldStore)}
    (whenDone : ∀ value after, result = .ok (value, after) → kept after) :
    kept (Outcome.ofExcept store result).state := by
  cases result with
  | error fault => exact before
  | ok pair => exact whenDone pair.1 pair.2 rfl

/-- So does an operation that gives nothing but a store. -/
theorem keeps_changed (kept : FieldStore → Prop) {store : FieldStore} (before : kept store)
    {result : Except Fault FieldStore} (whenDone : ∀ after, result = .ok after → kept after) :
    kept (store.changed result).state := by
  refine keeps_ofExcept kept before fun _ after done => ?_
  obtain ⟨given, isGiven, same⟩ := Result.map_eq_ok_iff.mp done
  obtain ⟨-, rfl⟩ := Prod.mk.inj same
  exact whenDone given isGiven

/-- A call keeps a store orderly, whether it succeeds or fails. -/
theorem Orderly.perform {store : FieldStore} (orderly : store.Orderly) (call : StoreCall) :
    (store.perform call).state.Orderly := by
  cases call with
  | add type attributes => exact orderly.add type attributes
  | update id attributes =>
    exact keeps_ofExcept Orderly orderly fun _ _ done => orderly.update done
  | delete id => exact orderly.delete id
  | move source target => exact keeps_changed Orderly orderly fun _ done => orderly.move done
  | select id => exact keeps_changed Orderly orderly fun _ done => orderly.select done
  | replace fields =>
    exact keeps_changed Orderly orderly fun _ done => orderly_of_replace done

/-- Calls keep a store orderly. -/
theorem Orderly.run {store : FieldStore} (orderly : store.Orderly) (calls : List StoreCall) :
    (store.run calls).Orderly := by
  induction calls generalizing store with
  | nil => exact orderly
  | cons call rest inductionHypothesis => exact inductionHypothesis (orderly.perform call)

/-- Every state of every run is orderly. -/
theorem Reached.orderly {ids : IdSource} {fields : List Field} {store : FieldStore}
    (reached : Reached ids fields store) : store.Orderly := by
  induction reached with
  | built construction => exact orderly_of_replace construction
  | called _ call inductionHypothesis => exact inductionHypothesis.perform call

/-- A run with a refused call in it. The source of ids gives `x` once and then `y` for ever, so a
first field is added as `y`, a second one is refused, and the selection outlives the deletion. -/
theorem Reached.orderly_after_refused_addition :
    ∃ store, Reached (.endingWith ["x", "y"])
        [{ type := .text, label := .str "Name", id := "x", order := .int 5 }] store ∧
      store.fieldIds = ["x"] ∧ store.selected = some "x" ∧ store.Orderly := by
  have built : Reached (.endingWith ["x", "y"])
      [{ type := .text, label := .str "Name", id := "x", order := .int 5 }] _ := .built rfl
  have added := (built.called (.add (.str "number") [])).called (.add (.str "number") [])
  have reached := (added.called (.select (.str "x"))).called (.delete (.str "y"))
  exact ⟨_, reached, rfl, rfl, reached.orderly⟩

end FieldStore

end FormEngine
