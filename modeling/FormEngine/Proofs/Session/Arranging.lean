import FormEngine.Proofs.Session.Loading
import FormEngine.Yaml.Library

/-!
# Loading forms in any order

A form whose fields claim integer positions, whichever these are, is arranged as it is loaded: the
fields are put in a stable order of their positions and then numbered by their places. It is refused
only if two fields share an id, and then everything stays as it was. An arranged form is in order,
so that loading it again changes nothing.
-/

namespace FormEngine

/-- Sorting distinct items by a position puts them in a stable order of it. -/
theorem exists_places_of_sort {α ε : Type} [DecidableEq α] {before : α → α → Except ε Bool}
    {position : α → Int} {items sorted : List α}
    (ordered : Sorting.OrderedBy before position items) (distinct : items.Nodup)
    (done : Sorting.sort before items = .ok sorted) :
    ∃ places, StablyOrders (items.map position) places ∧
      sorted = places.filterMap (items[·]?) := by
  have permuted := Sorting.perm_of_sort done
  have located : ∀ item ∈ sorted, items[items.idxOf item]? = some item := fun item member =>
    List.getElem?_idxOf (permuted.subset member)
  have allPlaces : items.map items.idxOf = List.range items.length := by
    refine List.ext_getElem (by simp) fun place inside _ => ?_
    rw [List.getElem_map, List.getElem_range, distinct.idxOf_getElem]
  refine ⟨sorted.map items.idxOf, ⟨?_, ?_⟩, ?_⟩
  · rw [List.length_map, ← allPlaces]
    exact permuted.map _
  · have ascends := Sorting.ascends_idxOf_of_sort ordered distinct done
    have different := permuted.nodup_iff.mpr distinct
    refine List.pairwise_map.mpr ((ascends.and different).imp_of_mem ?_)
    rintro earlier later earlierIn laterIn ⟨inOrder, apart⟩ first second isFirst isSecond
    simp only [List.getElem?_map, located earlier earlierIn, located later laterIn,
      Option.map_some, Option.some.injEq] at isFirst isSecond
    have placesApart : items.idxOf earlier ≠ items.idxOf later := fun same =>
      apart ((List.idxOf_inj (permuted.subset earlierIn)).mp same)
    simp only [Prod.Lex.toLex_le_toLex] at inOrder
    omega
  · rw [List.filterMap_map]
    exact ((List.filterMap_congr located).trans List.filterMap_some).symm

/-- Fields are ordered by the integers that they claim. -/
theorem FieldStore.orderedBy_position {fields : List Field} {positions : List Int}
    (claimed : fields.map (·.order) = positions.map .int) :
    Sorting.OrderedBy (fun left right : Field => left.order.before right.order)
      (·.order.amount) fields := by
  have integers : ∀ field ∈ fields, ∃ position, field.order = .int position := by
    intro field member
    have inOrders : field.order ∈ positions.map .int := claimed ▸ List.mem_map_of_mem member
    obtain ⟨position, -, same⟩ := List.mem_map.mp inOrders
    exact ⟨position, same.symm⟩
  intro left leftIn right rightIn
  obtain ⟨first, isFirst⟩ := integers left leftIn
  obtain ⟨second, isSecond⟩ := integers right rightIn
  simp only [isFirst, isSecond, Value.before_int, Value.amount]

namespace FieldStore

variable {fields : List Field} {positions : List Int}

/-- Fields that claim integers can be sorted by them. -/
theorem exists_sortByOrder (claimed : fields.map (·.order) = positions.map .int) :
    ∃ sorted, sortByOrder fields = .ok sorted ∧ sorted.Perm fields :=
  Sorting.sort_eq_ok fun left leftIn right rightIn =>
    ⟨_, orderedBy_position claimed left leftIn right rightIn⟩

/-- Fields that claim integers replace others in a stable order of these, if they have distinct
ids. -/
theorem replace_of_distinct (store : FieldStore)
    (claimed : fields.map (·.order) = positions.map .int) (distinct : (fields.map (·.id)).Nodup) :
    ∃ places, StablyOrders positions places ∧ store.replace fields = .ok { store with
      fields := renumber (places.filterMap (fields[·]?)), selected := none, preview := {} } := by
  obtain ⟨sorted, done, permuted⟩ := exists_sortByOrder claimed
  have arePositions : fields.map (·.order.amount) = positions := by
    have amounts := congrArg (List.map Value.amount) claimed
    simpa [Function.comp_def, Value.amount] using amounts
  obtain ⟨places, stable, same⟩ :=
    exists_places_of_sort (orderedBy_position claimed) distinct.of_map done
  have unrepeated : repeatedId? [] sorted = none :=
    repeatedId?_eq_none_iff.mpr ⟨(permuted.map _).nodup_iff.mpr distinct, by simp⟩
  refine ⟨places, arePositions ▸ stable, ?_⟩
  rw [← same, replace, done, Result.ok_bind]
  simp only [unrepeated, Result.pure_eq_ok]

/-- They are refused if two of them share an id. -/
theorem replace_of_repeated (store : FieldStore)
    (claimed : fields.map (·.order) = positions.map .int)
    (repeated : ¬(fields.map (·.id)).Nodup) :
    ∃ id, store.replace fields = .error (.duplicateId id) := by
  obtain ⟨sorted, done, permuted⟩ := exists_sortByOrder claimed
  cases found : repeatedId? [] sorted with
  | none =>
    have distinct := (repeatedId?_eq_none_iff.mp found).1
    exact absurd ((permuted.map _).nodup_iff.mp distinct) repeated
  | some id =>
    refine ⟨id, ?_⟩
    rw [replace, done, Result.ok_bind]
    simp only [found, Result.throw_eq_error]

end FieldStore

namespace Session

/-- Loading a form whose fields a store takes makes these the fields of the form. -/
theorem load_of_replace {session : Session} {form : Form} {store : FieldStore}
    (replaced : session.store.replace form.fields = .ok store) (distinct : store.fieldIds.Nodup) :
    session.load form = {
      result := .ok { form with fields := store.fields }
      session := { session with
        store, current := some { header := form.toFormHeader, members := membersOf store } } } := by
  simp only [load, loadForm, replaced, Result.ok_bind, form_membersOf form.toFormHeader distinct]
  rfl

/-- A form whose fields claim integers is refused exactly if two of them share an id, and then
nothing changes; nor does the form, if its fields are those of the session, in which case a change
to one of them would show. Otherwise the form and the store have its fields, each once, in a stable order of
the claimed positions, numbered, and nothing else of them is changed. Selection and preview are
empty then, and the form can be loaded again without any change. -/
theorem load_arranges (session : Session) (form : Form) (positions : List Int)
    (claimed : form.fields.map (·.order) = positions.map .int) :
    (¬form.fieldIds.Nodup → ∃ fault, session.load form = session.unchanged (.error fault) ∧
      fault.category = .invalidArgument ∧
      ∀ given : CurrentForm, given.form session.store = form →
        given.form (session.load form).session.store = form) ∧
    (form.fieldIds.Nodup → ∃ places loaded after, StablyOrders positions places ∧
      loaded = { form with fields := renumber (places.filterMap (form.fields[·]?)) } ∧
      session.load form = { result := .ok loaded, session := after } ∧
      after.currentForm? = some loaded ∧ after.clock = session.clock ∧
      after.store =
        { session.store with fields := loaded.fields, selected := none, preview := {} } ∧
      after.load loaded = { result := .ok loaded, session := after }) := by
  refine ⟨fun repeated => ?refused, fun distinct => ?arranged⟩
  case refused =>
    obtain ⟨id, refused⟩ := session.store.replace_of_repeated claimed repeated
    have unchanged : session.load form = session.unchanged (.error (.duplicateId id)) := by
      simp only [load, loadForm, refused, Result.error_bind, stepOf]
    exact ⟨.duplicateId id, unchanged, rfl, fun given same => by rwa [unchanged]⟩
  case arranged =>
    obtain ⟨places, stable, replaced⟩ := session.store.replace_of_distinct claimed distinct
    let store : FieldStore := { session.store with
      fields := renumber (places.filterMap (form.fields[·]?)), selected := none, preview := {} }
    have orderly : store.Orderly := FieldStore.orderly_of_replace replaced
    have replacedAgain : store.replace store.fields = .ok store :=
      store.replace_of_placed orderly.placed orderly.distinct
    exact ⟨places, _, _, stable, rfl, load_of_replace replaced orderly.distinct,
      congrArg some (form_membersOf form.toFormHeader orderly.distinct), rfl, rfl,
      load_of_replace replacedAgain orderly.distinct⟩

/-- Of four fields two claim a place behind the list, both the same one, and two claim places before
it. A form that lists the fields of the session, the first of them twice, is refused, and its fields
keep their places. -/
theorem load_arranges_fourFields :
    let session := Session.new (.counting "f") (.still .startOf2024) Yaml.library
    let form : Form := {
      id := "form"
      fields := [("a", 9), ("b", -2), ("c", 9), ("d", -5)].map fun (id, position) =>
        { type := .text, label := .str "Name", id, order := .int position } }
    let given : CurrentForm :=
      { header := form.toFormHeader, members := ["d", "b", "a", "c", "d"].map .shared }
    let positions : List Value := [.int 0, .int 1, .int 2, .int 3, .int 0]
    ∃ loaded after, session.load form = { result := .ok loaded, session := after } ∧
      loaded.fieldIds = ["d", "b", "a", "c"] ∧ loaded.fields.map (·.order) = positions.take 4 ∧
      after.load loaded = { result := .ok loaded, session := after } ∧
      ∃ fault, after.load (given.form after.store) = after.unchanged (.error fault) ∧
        fault.category = .invalidArgument ∧
        (given.form (after.load (given.form after.store)).session.store).fields.map (·.order) =
          positions := by
  intro session form given positions
  have isOrder : StablyOrders [9, -2, 9, -5] [3, 1, 0, 2] := ⟨by decide, by simp⟩
  obtain ⟨-, loads⟩ := load_arranges session form [9, -2, 9, -5] rfl
  obtain ⟨places, loaded, after, stable, isLoaded, loading, -, -, stored, again⟩ := loads (by decide)
  obtain rfl := stable.unique isOrder
  have arePositions : (given.form after.store).fields.map (·.order) = positions := by
    rw [stored, isLoaded]
    rfl
  have repeated : ¬(given.form after.store).fieldIds.Nodup := by
    rw [stored, isLoaded]
    decide
  obtain ⟨refuses, -⟩ := load_arranges after (given.form after.store) [0, 1, 2, 3, 0] arePositions
  obtain ⟨fault, refused, category, keeps⟩ := refuses repeated
  exact ⟨loaded, after, loading, isLoaded ▸ rfl, isLoaded ▸ rfl, again, fault, refused, category,
    by rw [keeps given rfl, arePositions]⟩

end Session

end FormEngine
