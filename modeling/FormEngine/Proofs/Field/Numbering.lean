import FormEngine.Field.Basic
import Mathlib.Data.List.Nodup
import Mathlib.Data.List.Perm.Subperm

/-!
# Numbered fields

A list of fields is numbered if every field has its place as its order. Numbering gives such a list,
and leaves one that is numbered already as it is. A list that has the same orders in any arrangement
is enumerated.
-/

namespace FormEngine

/-- Every field has its place in the list as its order. -/
def Placed (fields : List Field) : Prop :=
  ∀ (position : Nat) (field : Field), fields[position]? = some field →
    field.order = .int position

/-- Numbering changes no id. -/
@[simp] theorem map_id_renumber (fields : List Field) :
    (renumber fields).map (·.id) = fields.map (·.id) := by
  apply List.ext_getElem?
  intro position
  simp [renumber, Field.withOrder, Function.comp_def]

/-- Every numbered field was there before, with another order. -/
theorem mem_renumber {fields : List Field} {field : Field} (member : field ∈ renumber fields) :
    ∃ original ∈ fields, ∃ position, field = original.withOrder position := by
  obtain ⟨position, found⟩ := List.mem_iff_getElem?.mp member
  simp only [renumber, List.getElem?_mapIdx, Option.map_eq_some_iff] at found
  obtain ⟨original, originalFound, rfl⟩ := found
  exact ⟨original, List.mem_of_getElem? originalFound, position, rfl⟩

/-- Every field is there after numbering, with another order. -/
theorem exists_mem_renumber {fields : List Field} {field : Field} (member : field ∈ fields) :
    ∃ position, field.withOrder position ∈ renumber fields := by
  obtain ⟨position, found⟩ := List.mem_iff_getElem?.mp member
  refine ⟨position, List.mem_of_getElem? (i := position) ?_⟩
  simp [renumber, found]

/-- Numbered fields have their places as their orders. -/
theorem placed_renumber (fields : List Field) : Placed (renumber fields) := by
  intro position field found
  simp only [renumber, List.getElem?_mapIdx, Option.map_eq_some_iff] at found
  obtain ⟨before, -, rfl⟩ := found
  rfl

/-- Every numbered field has a place, which is its order. -/
theorem Placed.exists_place {fields : List Field} (placed : Placed fields) {field : Field}
    (member : field ∈ fields) :
    ∃ place : Nat, fields[place]? = some field ∧ field.order = .int place := by
  obtain ⟨place, found⟩ := List.mem_iff_getElem?.mp member
  exact ⟨place, found, placed place field found⟩

/-- Every numbered field has an integer as its order. -/
theorem Placed.order_of_mem {fields : List Field} (placed : Placed fields) {field : Field}
    (member : field ∈ fields) : ∃ position, field.order = .int position := by
  obtain ⟨place, -, isOrder⟩ := placed.exists_place member
  exact ⟨place, isOrder⟩

/-- Numbering leaves numbered fields as they are. -/
theorem Placed.renumber {fields : List Field} (placed : Placed fields) :
    renumber fields = fields := by
  apply List.ext_getElem?
  intro position
  rw [FormEngine.renumber, List.getElem?_mapIdx]
  cases found : fields[position]? with
  | none => rfl
  | some field =>
    have order := placed position field found
    simp [Field.withOrder, ← order]

/-- Whether fields have their places as their orders depends on the orders only. -/
theorem Placed.of_orders {fields others : List Field} (placed : Placed fields)
    (same : others.map (·.order) = fields.map (·.order)) : Placed others := by
  intro position field found
  have ordered : (fields.map (·.order))[position]? = some field.order := by
    rw [← same, List.getElem?_map, found, Option.map_some]
  rw [List.getElem?_map, Option.map_eq_some_iff] at ordered
  obtain ⟨original, originalFound, orders⟩ := ordered
  rw [← orders]
  exact placed position original originalFound

/-- A field behind the last one, with the next place as its order, keeps the others in place. -/
theorem Placed.append {fields : List Field} (placed : Placed fields) {field : Field}
    (next : field.order = .int fields.length) : Placed (fields ++ [field]) := by
  intro position found inList
  rcases Nat.lt_trichotomy position fields.length with inside | rfl | outside
  · rw [List.getElem?_append_left inside] at inList
    exact placed position found inList
  · simp only [List.getElem?_concat_length, Option.some.injEq] at inList
    rw [← inList]
    exact next
  · rw [List.getElem?_eq_none (by simp; omega)] at inList
    cases inList

/-- The orders of the fields are the places of a list of their number, each once. -/
def Enumerated (fields : List Field) : Prop :=
  (fields.map (·.order)).Perm ((List.range fields.length).map fun place => .int place)

/-- Numbered fields are enumerated. -/
theorem Placed.enumerated {fields : List Field} (placed : Placed fields) : Enumerated fields := by
  refine .of_eq (List.ext_getElem (by simp) fun position inside _ => ?_)
  have isThere : position < fields.length := by simpa using inside
  simpa using placed position _ (List.getElem?_eq_getElem isThere)

/-- Numbered fields at the first places are numbered. -/
theorem Placed.take {fields : List Field} (placed : Placed fields) (count : Nat) :
    Placed (fields.take count) := by
  intro position field found
  rw [List.getElem?_take] at found
  split at found
  · exact placed position field found
  · cases found

/-- Whether fields are enumerated does not depend on their arrangement. -/
theorem Enumerated.of_perm {fields others : List Field} (enumerated : Enumerated fields)
    (same : others.Perm fields) : Enumerated others := by
  rw [Enumerated, same.length_eq]
  exact (same.map _).trans enumerated

/-- Fields are enumerated exactly if none of the places of a list of their number is missing among
their orders, since then nothing else fits in. -/
theorem enumerated_iff {fields : List Field} :
    Enumerated fields ↔
      ∀ place < fields.length, ∃ field ∈ fields, field.order = .int (place : Nat) := by
  constructor
  · intro enumerated place inside
    have isOrder := enumerated.symm.subset (List.mem_map_of_mem (List.mem_range.mpr inside))
    exact List.mem_map.mp isOrder
  · intro covered
    have distinct : ((List.range fields.length).map fun place => Value.int (place : Nat)).Nodup :=
      List.nodup_range.map fun _ _ same => Int.natCast_inj.mp (Value.int.inj same)
    have subset : ((List.range fields.length).map fun place => Value.int (place : Nat)) ⊆
        fields.map (·.order) := by
      intro order isPlace
      obtain ⟨place, inside, rfl⟩ := List.mem_map.mp isPlace
      exact List.mem_map.mpr (covered place (List.mem_range.mp inside))
    exact ((List.subperm_of_subset distinct subset).perm_of_length_le (by simp)).symm

end FormEngine
