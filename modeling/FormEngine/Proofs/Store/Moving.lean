import FormEngine.Proofs.Permutation
import FormEngine.Proofs.Store.Order
import Mathlib.Data.List.InsertIdx

/-!
# Moving a field

A move takes an item out of a list and puts it in again at another place, so that the others keep
their order. Two moves of one item come to a single one, from its first place to its last, and a
move to the place where an item stands is none. The fields of a store are numbered after every
move, and the numbers that they had before do not count; so what holds of lists holds of the store.
-/

namespace FormEngine

namespace FieldStore

section

variable {α β : Type} {items : List α} {source middle target : Nat}

/-- An item that is moved is taken out and put in again. -/
theorem moveItem_eq (sourceInside : source < items.length) :
    moveItem items source target = (items.eraseIdx source).insertIdx target items[source] := by
  simp only [moveItem, List.getElem?_eq_getElem sourceInside]

/-- Moving an item changes the places of items, whatever they are. -/
theorem map_moveItem (f : α → β) (items : List α) (source target : Nat) :
    (moveItem items source target).map f = moveItem (items.map f) source target := by
  simp only [moveItem, List.getElem?_map]
  cases items[source]? with
  | none => rfl
  | some item => simp [List.map_insertIdx, List.eraseIdx_map]

/-- An item that is moved stands at the place that it is moved to. -/
theorem getElem?_moveItem (sourceInside : source < items.length)
    (targetInside : target < items.length) :
    (moveItem items source target)[target]? = items[source]? := by
  have shortened : (items.eraseIdx source).length = items.length - 1 :=
    List.length_eraseIdx_of_lt sourceInside
  rw [moveItem_eq sourceInside, List.getElem?_insertIdx_self, if_pos (by omega),
    List.getElem?_eq_getElem sourceInside]

/-- The others are the same as before, in the order that they had. -/
theorem eraseIdx_moveItem (sourceInside : source < items.length) :
    (moveItem items source target).eraseIdx target = items.eraseIdx source := by
  rw [moveItem_eq sourceInside, List.eraseIdx_insertIdx_self]

/-- An item that is moved on from the place that it was moved to might have been moved at once. -/
theorem moveItem_moveItem (sourceInside : source < items.length)
    (middleInside : middle < items.length) :
    moveItem (moveItem items source middle) middle target = moveItem items source target := by
  have isThere := getElem?_moveItem sourceInside middleInside
  rw [List.getElem?_eq_getElem sourceInside] at isThere
  calc moveItem (moveItem items source middle) middle target
    _ = ((moveItem items source middle).eraseIdx middle).insertIdx target items[source] := by
      simp only [moveItem.eq_def (moveItem items source middle), isThere]
    _ = moveItem items source target := by
      rw [eraseIdx_moveItem sourceInside, moveItem_eq sourceInside]

/-- An item that is moved to where it stands stays there. -/
theorem moveItem_self (items : List α) (place : Nat) : moveItem items place place = items := by
  by_cases inside : place < items.length
  · rw [moveItem_eq inside, List.insertIdx_eraseIdx_getElem inside]
  · simp only [moveItem, List.getElem?_eq_none (Nat.le_of_not_lt inside)]

end

/-- Numbering looks at no orders. -/
theorem renumber_map_unplaced (fields : List Field) :
    renumber (fields.map Field.unplaced) = renumber fields := by
  apply List.ext_getElem?
  intro position
  simp only [renumber, List.getElem?_mapIdx, List.getElem?_map, Option.map_map]
  rfl

/-- So the numbers that fields have before they are moved do not count. -/
theorem renumber_moveItem_renumber (fields : List Field) (source target : Nat) :
    renumber (moveItem (renumber fields) source target) =
      renumber (moveItem fields source target) := by
  rw [← renumber_map_unplaced, map_moveItem, map_unplaced_renumber, ← map_moveItem,
    renumber_map_unplaced]

/-- The index of one of a number of items. -/
def IsIndex (size : Nat) (index : Value) : Prop :=
  ∃ position < size, index = .int position

/-- The end of a move that is refused, with what was given for it: the source if that is no index,
and else the target. -/
inductive RefusesEnd (size : Nat) (source target : Value) : MoveEnd → Value → Prop
  | source (outside : ¬IsIndex size source) : RefusesEnd size source target .source source
  | target (inside : IsIndex size source) (outside : ¬IsIndex size target) :
      RefusesEnd size source target .target target

/-- One of the ends is refused unless both are indices. -/
theorem exists_refusesEnd {size : Nat} {source target : Value}
    (outside : ¬(IsIndex size source ∧ IsIndex size target)) :
    ∃ moveEnd index, RefusesEnd size source target moveEnd index := by
  by_cases sourceInside : IsIndex size source
  · exact ⟨_, _, .target sourceInside fun targetInside => outside ⟨sourceInside, targetInside⟩⟩
  · exact ⟨_, _, .source sourceInside⟩

/-- An index names its place. -/
theorem place_of_lt (moveEnd : MoveEnd) {position size : Nat} (inside : position < size) :
    place moveEnd (.int position) size = .ok position := by
  simp only [place]
  rw [if_pos ⟨by omega, by omega⟩, Int.toNat_natCast]

/-- What is no index names no place. -/
theorem place_of_not_isIndex (moveEnd : MoveEnd) {index : Value} {size : Nat}
    (outside : ¬IsIndex size index) :
    place moveEnd index size = .error (Fault.indexOutOfRange moveEnd index size).told := by
  cases index with
  | int position =>
    simp only [place]
    refine if_neg fun inside => outside ⟨position.toNat, by omega, ?_⟩
    rw [Int.toNat_of_nonneg inside.1]
  | _ => rfl

section

variable {store : FieldStore} {source target : Nat}

/-- A move from one place to another moves the field and numbers all. -/
theorem move_of_lt (sourceInside : source < store.fields.length)
    (targetInside : target < store.fields.length) :
    store.move (.int source) (.int target) =
      .ok { store with fields := renumber (moveItem store.fields source target) } := by
  simp only [move, place_of_lt _ sourceInside, place_of_lt _ targetInside, Result.ok_bind,
    Result.pure_eq_ok]

/-- A move that is refused names the end that is no place, and the refusal is told. -/
theorem move_of_refusesEnd {source target : Value} {moveEnd : MoveEnd} {index : Value}
    (refused : RefusesEnd store.fields.length source target moveEnd index) :
    store.move source target =
      .error (Fault.indexOutOfRange moveEnd index store.fields.length).told := by
  cases refused with
  | source outside => simp only [move, place_of_not_isIndex _ outside, Result.error_bind]
  | target inside outside =>
    obtain ⟨place, inside, rfl⟩ := inside
    simp only [move, place_of_lt _ inside, place_of_not_isIndex _ outside, Result.ok_bind,
      Result.error_bind]

/-- Two moves of one field come to a single one. -/
theorem move_move (sourceInside : source < store.fields.length) {middle : Nat}
    (middleInside : middle < store.fields.length) (targetInside : target < store.fields.length) :
    (store.move (.int source) (.int middle) >>= fun moved =>
      moved.move (.int middle) (.int target)) = store.move (.int source) (.int target) := by
  have sameLength : (renumber (moveItem store.fields source middle)).length =
      store.fields.length := by
    simp only [renumber, List.length_mapIdx, (moveItem_perm _ sourceInside middleInside).length_eq]
  rw [move_of_lt sourceInside middleInside, Result.ok_bind,
    move_of_lt (by rwa [sameLength]) (by rwa [sameLength]), move_of_lt sourceInside targetInside]
  simp only [renumber_moveItem_renumber, moveItem_moveItem sourceInside middleInside]

/-- A field that is moved to its place leaves numbered fields as they are. -/
theorem move_self (placed : Placed store.fields) (inside : source < store.fields.length) :
    store.move (.int source) (.int source) = .ok store := by
  rw [move_of_lt inside inside, moveItem_self, placed.renumber]

end

/-- The fields of a store that calls lead to are numbered. -/
theorem Reached.placed {ids : IdSource} {given : List Field} {store : FieldStore}
    (reached : Reached ids given store) : Placed store.fields := by
  have orderly : store.Orderly := by
    induction reached with
    | built construction => exact orderly_of_replace construction
    | called _ call inductionHypothesis => exact inductionHypothesis.perform call
  exact orderly.placed

/-- A field of a store is moved to any place of the list. The others keep their order, and nothing
changes of any field but its number. Two moves of one field come to a single one; a move to the
place where the field stands is none, and so a move back undoes a move, as the fields are numbered
whatever calls led to the store. Any other arguments are refused, and nothing changes: the refusal
names the first end that is no index, and it is about an argument exactly if what was given for
that end has a text. -/
theorem move_composes (store : FieldStore) :
    (∀ source < store.fields.length, ∀ target < store.fields.length, ∃ field moved,
      store.move (.int source) (.int target) = .ok { store with fields := moved } ∧
        store.fields[source]? = some field ∧ moved[target]? = some (field.withOrder target) ∧
        (moved.eraseIdx target).map Field.unplaced =
          (store.fields.eraseIdx source).map Field.unplaced ∧
        Placed moved) ∧
    (∀ source < store.fields.length, ∀ middle < store.fields.length,
      ∀ target < store.fields.length,
        (store.move (.int source) (.int middle) >>= fun moved =>
          moved.move (.int middle) (.int target)) = store.move (.int source) (.int target)) ∧
    (∀ ids given, Reached ids given store → Placed store.fields) ∧
    (Placed store.fields →
      (∀ place < store.fields.length, store.move (.int place) (.int place) = .ok store) ∧
      ∀ source < store.fields.length, ∀ target < store.fields.length,
        (store.move (.int source) (.int target) >>= fun moved =>
          moved.move (.int target) (.int source)) = .ok store) ∧
    ∀ source target,
      ¬(IsIndex store.fields.length source ∧ IsIndex store.fields.length target) →
        ∃ moveEnd index fault, RefusesEnd store.fields.length source target moveEnd index ∧
          store.move source target = .error fault ∧
          fault = (if index.hasOverlong then .integerUnwritten
            else .indexOutOfRange moveEnd index store.fields.length) ∧
          (fault.category = .invalidArgument ↔ index.hasOverlong = false) ∧
          (store.perform (.move source target)).state = store := by
  refine ⟨fun source sourceInside target targetInside => ?moved,
    fun source sourceInside middle middleInside target targetInside =>
      move_move sourceInside middleInside targetInside,
    fun _ _ reached => reached.placed,
    fun placed => ⟨fun place inside => move_self placed inside,
      fun source sourceInside target targetInside => ?undone⟩,
    fun source target outside => ?refused⟩
  case moved =>
    refine ⟨store.fields[source], renumber (moveItem store.fields source target),
      move_of_lt sourceInside targetInside, List.getElem?_eq_getElem sourceInside, ?_, ?_,
      placed_renumber _⟩
    · simp only [renumber, List.getElem?_mapIdx, getElem?_moveItem sourceInside targetInside,
        List.getElem?_eq_getElem sourceInside, Option.map_some]
    · rw [← List.eraseIdx_map, map_unplaced_renumber, List.eraseIdx_map,
        eraseIdx_moveItem sourceInside]
  case undone =>
    rw [move_move sourceInside targetInside sourceInside, move_self placed sourceInside]
  case refused =>
    obtain ⟨moveEnd, index, refusedEnd⟩ := exists_refusesEnd outside
    have refused := move_of_refusesEnd refusedEnd
    have told := Fault.told_of_named (.indexOutOfRange moveEnd index store.fields.length) rfl
    refine ⟨moveEnd, index, _, refusedEnd, refused, told, ?category, by
      simp only [perform, changed, refused, Except.map, Outcome.ofExcept]⟩
    rw [told]
    cases index.hasOverlong <;> simp [Fault.category]

-- Powers are those of the core library, whatever algebra is in scope beside this module.
attribute [local instance (high)] instPowNat

/-- Of four fields the first is moved over two others, and from there back by one or to where it
was. A truth value is no place to move it from, and the refusal says so; a number of 4301 digits is
none either, but the refusal can not spell it. -/
theorem move_composes_fourFields :
    let store : FieldStore := {
      ids := .counting "f"
      selected := some "b"
      fields := renumber (["a", "b", "c", "d"].map fun id =>
        { type := .text, label := .str "Name", id }) }
    Placed store.fields ∧
      (∃ moved, store.move (.int 0) (.int 2) = .ok moved ∧
        moved.fieldIds = ["b", "c", "a", "d"] ∧ Placed moved.fields ∧ moved.selected = some "b" ∧
        moved.move (.int 2) (.int 1) = store.move (.int 0) (.int 1) ∧
        moved.move (.int 2) (.int 0) = .ok store) ∧
      (¬(IsIndex 4 (.bool true) ∧ IsIndex 4 (.int 0)) ∧
        ∃ fault, store.move (.bool true) (.int 0) = .error fault ∧
          fault.category = .invalidArgument) ∧
      ¬(IsIndex 4 (.int (10 ^ (4300 : Nat) : Nat)) ∧ IsIndex 4 (.int 0)) ∧
      ∃ fault, store.move (.int (10 ^ (4300 : Nat) : Nat)) (.int 0) = .error fault ∧
        fault.category ≠ .invalidArgument := by
  intro store
  obtain ⟨moves, composes, -, undoes, refuses⟩ := move_composes store
  have four : store.fields.length = 4 := rfl
  have placed : Placed store.fields := placed_renumber _
  obtain ⟨field, fields, moved, -, -, -, movedPlaced⟩ := moves 0 (by omega) 2 (by omega)
  have inOrder : fields.map (·.id) = ["b", "c", "a", "d"] := by
    cases moved
    rfl
  have onwards := composes 0 (by omega) 2 (by omega) 1 (by omega)
  have back := (undoes placed).2 0 (by omega) 2 (by omega)
  rw [moved, Result.ok_bind] at onwards back
  have noNumber : ¬(IsIndex 4 (.bool true) ∧ IsIndex 4 (.int 0)) := by
    rintro ⟨⟨_, _, ⟨⟩⟩, _⟩
  obtain ⟨_, _, refusal, noNumberRefused, refused, -, about, -⟩ :=
    refuses (.bool true) (.int 0) noNumber
  have tooFar (place : Nat) (far : 4 ≤ place) : ¬IsIndex 4 (.int place) := by
    rintro ⟨position, inside, isNumber⟩
    have samePlace : (place : Int) = position := Value.int.inj isNumber
    omega
  have beyond : ¬(IsIndex 4 (.int (10 ^ (4300 : Nat) : Nat)) ∧ IsIndex 4 (.int 0)) := fun indices =>
    tooFar _ (by decide +kernel) indices.1
  obtain ⟨_, _, failure, beyondRefused, failed, -, aboutOther, -⟩ :=
    refuses (.int (10 ^ (4300 : Nat) : Nat)) (.int 0) (by rw [four]; exact beyond)
  refine ⟨placed, ⟨_, moved, inOrder, movedPlaced, rfl, onwards, back⟩,
    ⟨noNumber, refusal, refused, about.mpr ?short⟩, beyond, failure, failed,
    fun isArgument => ?overlong⟩
  case short => cases noNumberRefused <;> rfl
  case overlong =>
    have short := aboutOther.mp isArgument
    cases beyondRefused with
    | source => exact absurd short (by decide +kernel)
    | target inside => exact beyond ⟨inside, 0, by omega, rfl⟩

end FieldStore

end FormEngine
