import FormEngine.Proofs.Session.Loading
import FormEngine.Proofs.Session.Turn
import FormEngine.Yaml.Library

/-!
# Orders of the fields of the current form

The store numbers its fields, and the members of the current form show the numbers that they have
there. A member that the store has lost keeps its last one. So the orders of the form are those of a
list as long as theirs when its members are listed, and as long as it has the first fields of the
store. They are not any more when the store closes the gap that a deleted member leaves.
-/

namespace FormEngine

namespace Member

/-- The id of the field of a member. -/
def id : Member → String
  | shared id => id
  | detached field => field.id

/-- A member has the field with its id. -/
theorem id_of_field? {store : FieldStore} {member : Member} {field : Field}
    (found : member.field? store = some field) : field.id = member.id := by
  cases member with
  | shared id =>
    have hasId := List.find?_some found
    exact beq_iff_eq.mp hasId
  | detached other =>
    obtain rfl := Option.some.inj found
    rfl

/-- Detaching a member leaves it its id. -/
@[simp] theorem id_detach (store : FieldStore) (member : Member) :
    (member.detach store).id = member.id := by
  cases member with
  | shared id =>
    simp only [detach]
    split
    · next field found =>
      have isField : (shared id).field? store = some field := found
      exact id_of_field? isField
    · rfl
  | detached field => rfl

/-- Detaching a member that the store has gives it the field of the store. -/
theorem detach_shared {store : FieldStore} (distinct : store.fieldIds.Nodup) {field : Field}
    (stored : field ∈ store.fields) : (shared field.id).detach store = .detached field := by
  simp only [detach, fieldWithId?_of_mem distinct stored]

/-- The ids of the fields are among those of the members, in their order. -/
theorem sublist_ids (store : FieldStore) (members : List Member) :
    ((members.filterMap (field? store)).map (·.id)).Sublist (members.map id) := by
  induction members with
  | nil => exact .slnil
  | cons member rest inductionHypothesis =>
    cases found : member.field? store with
    | none => simpa [found] using inductionHypothesis.cons member.id
    | some field => simpa [found, id_of_field? found] using inductionHypothesis

end Member

namespace Session

variable {session after : Session}

/-- The store is in order, no two members share an id, those that the store has are there, and
those that it has lost have a number as their order. -/
structure KeepsMembers (session : Session) : Prop where
  store : session.store.Orderly
  distinct : (session.members.map Member.id).Nodup
  stored : ∀ id, .shared id ∈ session.members → id ∈ session.store.fieldIds
  numbers : ∀ field, .detached field ∈ session.members → ∃ place : Nat, field.order = .int place

/-- A new session has no members. -/
theorem keepsMembers_new (ids : IdSource) (clock : Clock) (yaml : YamlLibrary) :
    (new ids clock yaml).KeepsMembers where
  store := FieldStore.orderly_empty ids
  distinct := .nil
  stored := nofun
  numbers := nofun

/-- The fields of a store in order may be the members. -/
theorem keepsMembers_of_listed (orderly : session.store.Orderly)
    (listed : session.members = membersOf session.store) : session.KeepsMembers where
  store := orderly
  distinct := by
    rw [listed, membersOf, List.map_map]
    exact orderly.distinct
  stored := by
    intro id isMember
    rw [listed] at isMember
    obtain ⟨field, stored, ⟨⟩⟩ := List.mem_map.mp isMember
    exact List.mem_map_of_mem stored
  numbers := by
    intro field isMember
    rw [listed] at isMember
    obtain ⟨_, _, ⟨⟩⟩ := List.mem_map.mp isMember

/-- A member of the form stands at a place in the store, or stood there last. -/
def HasMemberAt (session : Session) (place : Nat) : Prop :=
  (∃ field, session.store.fields[place]? = some field ∧ .shared field.id ∈ session.members) ∨
    ∃ field, .detached field ∈ session.members ∧ field.order = .int place

namespace KeepsMembers

variable (keeps : session.KeepsMembers)
include keeps

/-- A member that the store has is a field of it. -/
theorem exists_stored {id : String} (isMember : .shared id ∈ session.members) :
    ∃ field ∈ session.store.fields, field.id = id :=
  List.mem_map.mp (keeps.stored id isMember)

/-- The store may get further fields, and have them in another order. -/
theorem of_subset (orderly : after.store.Orderly) (members : after.members = session.members)
    (ids : session.store.fieldIds ⊆ after.store.fieldIds) : after.KeepsMembers where
  store := orderly
  distinct := members ▸ keeps.distinct
  stored := fun id isMember => ids (keeps.stored id (members ▸ isMember))
  numbers := fun field isMember => keeps.numbers field (members ▸ isMember)

/-- The store may lose fields of members that are detached before. -/
theorem of_detached {change : Member → Member}
    (detaches : ∀ member, change member = member ∨ change member = member.detach session.store)
    (orderly : after.store.Orderly) (members : after.members = session.members.map change)
    (left : ∀ id ∈ session.store.fieldIds, change (.shared id) = .shared id →
      id ∈ after.store.fieldIds) : after.KeepsMembers := by
  have sameId (member : Member) : (change member).id = member.id := by
    rcases detaches member with same | same <;> simp [same]
  have sameDetached (field : Field) : change (.detached field) = .detached field := by
    simpa [Member.detach] using detaches (.detached field)
  refine ⟨orderly, ?_, fun id isMember => ?_, fun field isMember => ?_⟩
  · simpa [members, Function.comp_def, sameId] using keeps.distinct
  · rw [members] at isMember
    obtain ⟨member, wasMember, changed⟩ := List.mem_map.mp isMember
    cases member with
    | detached field => cases (sameDetached field).symm.trans changed
    | shared other =>
      obtain rfl : id = other := (congrArg Member.id changed).symm.trans (sameId (.shared other))
      exact left id (keeps.stored id wasMember) changed
  · rw [members] at isMember
    obtain ⟨member, wasMember, changed⟩ := List.mem_map.mp isMember
    cases member with
    | detached other =>
      obtain ⟨⟩ := (sameDetached other).symm.trans changed
      exact keeps.numbers field wasMember
    | shared id =>
      obtain ⟨stored, isStored, rfl⟩ := keeps.exists_stored wasMember
      rcases detaches (.shared stored.id) with same | same
      · cases same.symm.trans changed
      · rw [Member.detach_shared keeps.store.distinct isStored] at same
        obtain ⟨⟩ := same.symm.trans changed
        obtain ⟨place, -, isOrder⟩ := keeps.store.placed.exists_place isStored
        exact ⟨place, isOrder⟩

/-- Every call keeps the members. -/
theorem perform (call : SessionCall) : (session.perform call).session.KeepsMembers := by
  obtain ⟨orderly, turn⟩ := takesTurn_perform keeps.store call
  cases turn with
  | listed members => exact keepsMembers_of_listed orderly members
  | kept members ids => exact keeps.of_subset orderly members (by simp [ids])
  | added _ members id ids => exact keeps.of_subset orderly members (by simp [ids])
  | moved _ members ids => exact keeps.of_subset orderly members ids.symm.subset
  | deleted _ id members store =>
    refine keeps.of_detached (fun member => ?_) orderly members fun other stored notDetached => ?_
    · unfold Member.detachId
      split
      · exact .inr rfl
      · exact .inl rfl
    · rw [store]
      refine FieldStore.mem_fieldIds_delete stored fun same => ?_
      obtain rfl := Value.str.inj same
      obtain ⟨field, isStored, rfl⟩ := List.mem_map.mp stored
      simp [Member.detachId, Member.detach_shared keeps.store.distinct isStored] at notDetached
  | replaced _ members =>
    refine keeps.of_detached (fun _ => .inr rfl) orderly members fun id stored notDetached => ?_
    obtain ⟨field, isStored, rfl⟩ := List.mem_map.mp stored
    rw [Member.detach_shared keeps.store.distinct isStored] at notDetached
    cases notDetached

/-- No two fields of the form share an id. -/
theorem distinct_fields {form : Form} (isCurrent : session.currentForm? = some form) :
    form.fieldIds.Nodup := by
  rw [Form.fieldIds, fields_of_currentForm isCurrent]
  exact (Member.sublist_ids session.store session.members).nodup keeps.distinct

/-- The form has a field for each of the members. -/
theorem length_fields {form : Form} (isCurrent : session.currentForm? = some form) :
    form.fields.length = session.members.length := by
  rw [fields_of_currentForm isCurrent, List.filterMap_length_eq_length]
  intro member isMember
  cases member with
  | detached field => rfl
  | shared id =>
    obtain ⟨field, isStored, rfl⟩ := keeps.exists_stored isMember
    simp [Member.field?, fieldWithId?_of_mem keeps.store.distinct isStored]

/-- The order of a field of the form is a number, at which a member stands. -/
theorem exists_place {form : Form} (isCurrent : session.currentForm? = some form) {field : Field}
    (inForm : field ∈ form.fields) :
    ∃ place : Nat, field.order = .int place ∧ session.HasMemberAt place := by
  rw [fields_of_currentForm isCurrent] at inForm
  obtain ⟨member, isMember, found⟩ := List.mem_filterMap.mp inForm
  cases member with
  | shared id =>
    obtain ⟨place, isThere, isOrder⟩ :=
      keeps.store.placed.exists_place (List.mem_of_find?_eq_some found)
    have sameId : field.id = id := Member.id_of_field? found
    exact ⟨place, isOrder, .inl ⟨field, isThere, sameId ▸ isMember⟩⟩
  | detached other =>
    obtain rfl := Option.some.inj found
    obtain ⟨place, isOrder⟩ := keeps.numbers other isMember
    exact ⟨place, isOrder, .inr ⟨other, isMember, isOrder⟩⟩

/-- A place of a member is the order of a field of the form. -/
theorem exists_field_of_place {form : Form} (isCurrent : session.currentForm? = some form)
    {place : Nat} (hasMember : session.HasMemberAt place) :
    ∃ field ∈ form.fields, field.order = .int place := by
  rw [fields_of_currentForm isCurrent]
  rcases hasMember with ⟨field, isThere, isMember⟩ | ⟨field, isMember, isOrder⟩
  · have found := fieldWithId?_of_mem keeps.store.distinct (List.mem_of_getElem? isThere)
    have isOrder := keeps.store.placed place field isThere
    exact ⟨field, List.mem_filterMap.mpr ⟨_, isMember, found⟩, isOrder⟩
  · exact ⟨field, List.mem_filterMap.mpr ⟨_, isMember, rfl⟩, isOrder⟩

/-- The fields of the form are enumerated exactly if there is a member at every place of a list of
their number. -/
theorem enumerated_iff {form : Form} (isCurrent : session.currentForm? = some form) :
    Enumerated form.fields ↔ ∀ place < form.fields.length, session.HasMemberAt place := by
  rw [FormEngine.enumerated_iff]
  refine forall₂_congr fun place _ => ⟨fun ⟨field, inForm, isOrder⟩ => ?_,
    keeps.exists_field_of_place isCurrent⟩
  obtain ⟨other, isPlace, hasMember⟩ := keeps.exists_place isCurrent inForm
  obtain rfl : place = other :=
    Int.natCast_inj.mp (Value.int.inj (isOrder.symm.trans isPlace))
  exact hasMember

end KeepsMembers

/-- Every session of every run keeps the members. -/
theorem KeepsMembers.run (keeps : session.KeepsMembers) (calls : List SessionCall) :
    (session.run calls).KeepsMembers := by
  induction calls generalizing session with
  | nil => exact keeps
  | cons call rest inductionHypothesis => exact inductionHypothesis (keeps.perform call)

/-- The members are the first fields of the store, in any arrangement. -/
def HasFirst (session : Session) : Prop :=
  ∃ listed, listed <+: membersOf session.store ∧ session.members.Perm listed

/-- There are no members, or all fields of the store are. -/
def HasAllOrNone (session : Session) : Prop :=
  session.members = [] ∨ session.members.Perm (membersOf session.store)

/-- Members are named by ids. -/
theorem membersOf_eq (store : FieldStore) : membersOf store = store.fieldIds.map .shared := by
  rw [membersOf, FieldStore.fieldIds, List.map_map]
  rfl

/-- All fields of the store, or none, are the first ones. -/
theorem HasAllOrNone.hasFirst (allOrNone : session.HasAllOrNone) : session.HasFirst := by
  rcases allOrNone with none | all
  · exact ⟨[], List.nil_prefix, none ▸ .refl _⟩
  · exact ⟨_, List.prefix_rfl, all⟩

/-- The first fields of a store in order are enumerated. -/
theorem HasFirst.enumerated (first : session.HasFirst) (orderly : session.store.Orderly)
    {form : Form} (isCurrent : session.currentForm? = some form) : Enumerated form.fields := by
  obtain ⟨listed, isPrefix, same⟩ := first
  have shown : listed.filterMap (Member.field? session.store) =
      session.store.fields.take listed.length := by
    rw [List.prefix_iff_eq_take.mp isPrefix, membersOf, ← List.map_take,
      filterMap_field?_shared orderly.distinct (List.take_subset _ _)]
    simp
  rw [fields_of_currentForm isCurrent]
  refine (orderly.placed.take listed.length).enumerated.of_perm ?_
  exact shown ▸ same.filterMap _

/-- Calls that take no field away from the store, and move none after one was added. -/
structure KeepFirst (calls : List SessionCall) : Prop where
  loseNone : ∀ call ∈ calls, ¬call.losesFields
  moveBeforeAdding : calls.Pairwise fun earlier later => earlier.addsField → ¬later.movesField

/-- Such calls leave a form the first fields of the store, if it has all or none of them, or nothing
is moved. -/
theorem hasFirst_run {calls : List SessionCall} (orderly : session.store.Orderly)
    (keep : KeepFirst calls)
    (start : session.HasAllOrNone ∨ session.HasFirst ∧ ∀ call ∈ calls, ¬call.movesField) :
    (session.run calls).HasFirst := by
  induction calls generalizing session with
  | nil => exact start.elim HasAllOrNone.hasFirst And.left
  | cons call rest inductionHypothesis =>
    obtain ⟨kept, laterKept⟩ := List.forall_mem_cons.mp keep.loseNone
    obtain ⟨notMoved, laterOrdered⟩ := List.pairwise_cons.mp keep.moveBeforeAdding
    have ahead : session.HasFirst := start.elim HasAllOrNone.hasFirst And.left
    obtain ⟨nextOrderly, turn⟩ := takesTurn_perform orderly call
    refine inductionHypothesis nextOrderly ⟨laterKept, laterOrdered⟩ ?_
    cases turn with
    | listed members => exact .inl (.inr (.of_eq members))
    | kept members ids =>
      rcases start with allOrNone | ⟨first, noMoves⟩
      · left
        rwa [HasAllOrNone, members, membersOf_eq, ids, ← membersOf_eq]
      · refine .inr ⟨?_, (List.forall_mem_cons.mp noMoves).2⟩
        rwa [HasFirst, members, membersOf_eq, ids, ← membersOf_eq]
    | added adds members id ids =>
      obtain ⟨listed, isPrefix, same⟩ := ahead
      refine .inr ⟨⟨listed, ?_, members ▸ same⟩, fun later isLater => notMoved later isLater adds⟩
      rw [membersOf_eq, ids, List.map_append, ← membersOf_eq]
      exact isPrefix.trans (List.prefix_append _ _)
    | moved moves members ids =>
      rcases start with allOrNone | ⟨-, noMoves⟩
      · refine .inl (allOrNone.imp (members ▸ ·) fun all => ?_)
        rw [members]
        rw [membersOf_eq] at all ⊢
        exact all.trans (ids.symm.map _)
      · exact absurd moves (noMoves call (.head _))
    | deleted loses | replaced loses => exact absurd loses kept

/-- A call that lists the fields of the store succeeds. -/
def Lists (session : Session) (call : SessionCall) : Prop :=
  call.listsFields ∧ (session.perform call).result = .ok ()

/-- After such a call all fields of the store are members, unless there is no form to save. -/
theorem Lists.members {call : SessionCall} (lists : session.Lists call) :
    (session.perform call).session.members = membersOf (session.perform call).session.store ∨
      (session.perform call).session.current = none := by
  obtain ⟨isListing, done⟩ := lists
  cases call with
  | create title description => exact .inl rfl
  | load form =>
    obtain ⟨loaded, isLoaded, -⟩ := Result.map_eq_ok_iff.mp done
    exact .inl (listed_loadForm (stepOf_eq_ok isLoaded)).2
  | save =>
    simp only [perform, save, Step.plain]
    split
    · next none => exact .inr none
    · exact .inl rfl
  | importText text format strict =>
    obtain ⟨form, imported, -⟩ := Result.map_eq_ok_iff.mp done
    simp only [perform, Step.plain, importText] at imported ⊢
    split
    · next refused =>
      rw [refused] at imported
      cases imported
    · next format isFormat =>
      rw [isFormat] at imported
      obtain ⟨read, -, loaded⟩ := Result.bind_eq_ok_iff.mp (stepOf_eq_ok imported)
      exact .inl (listed_loadForm loaded).2
  | _ => cases isListing

section

variable {place : Nat} {field : Field} (keeps : session.KeepsMembers)
  (listed : session.members = membersOf session.store)
  (isThere : session.store.fields[place]? = some field)
include keeps listed isThere

/-- Deleting a field of a listed form takes it from the store and detaches it. -/
theorem delete_of_listed :
    let deleted := (session.delete (.str field.id)).session
    deleted.store.fieldIds = session.store.fieldIds.erase field.id ∧
      deleted.members.length = session.store.fields.length ∧
      ∀ member, member ∈ deleted.members ↔
        member = .detached field ∨ ∃ id ∈ deleted.store.fieldIds, member = .shared id := by
  intro deleted
  have distinct := keeps.store.distinct
  have stored : field ∈ session.store.fields := List.mem_of_getElem? isThere
  have found : session.store.requireField (.str field.id) = .ok field := by
    simp [FieldStore.requireField, FieldStore.field?, Value.text?,
      fieldWithId?_of_mem distinct stored]
  obtain ⟨store, members⟩ := store_and_members_delete found
  have ids : deleted.store.fieldIds = session.store.fieldIds.erase field.id :=
    store ▸ FieldStore.fieldIds_delete ..
  refine ⟨ids, by simp [deleted, members, listed, membersOf], fun member => ?_⟩
  rw [ids, members, listed, membersOf_eq, List.map_map, List.mem_map]
  simp only [distinct.mem_erase_iff, Function.comp_apply, Member.detachId, Member.shared.injEq]
  constructor
  · rintro ⟨id, isStored, rfl⟩
    by_cases same : id = field.id
    · left
      rw [if_pos same, same, Member.detach_shared distinct stored]
    · exact .inr ⟨id, ⟨same, isStored⟩, if_neg same⟩
  · rintro (rfl | ⟨id, ⟨different, isStored⟩, rfl⟩)
    · refine ⟨field.id, List.mem_map_of_mem stored, ?_⟩
      rw [if_pos rfl, Member.detach_shared distinct stored]
    · exact ⟨id, isStored, if_neg different⟩

/-- After that there are members at all places of the store, which has one field less, and at the
place of the field. -/
theorem hasMemberAt_delete_iff (other : Nat) :
    (session.delete (.str field.id)).session.HasMemberAt other ↔
      other + 1 < session.store.fields.length ∨ other = place := by
  obtain ⟨ids, -, members⟩ := delete_of_listed keeps listed isThere
  let left := (session.delete (.str field.id)).session.store.fields
  have isId : field.id ∈ session.store.fieldIds :=
    List.mem_map_of_mem (List.mem_of_getElem? isThere)
  have isOrder : field.order = .int place := keeps.store.placed place field isThere
  have fewer : left.length = session.store.fields.length - 1 := by
    simpa [FieldStore.fieldIds] using
      (congrArg List.length ids).trans (List.length_erase_of_mem isId)
  constructor
  · rintro (⟨shown, isShown, -⟩ | ⟨lost, isMember, lastOrder⟩)
    · have inside : other < left.length := (List.getElem?_eq_some_iff.mp isShown).1
      omega
    · rcases (members _).mp isMember with same | ⟨_, -, ⟨⟩⟩
      rw [Member.detached.inj same, isOrder] at lastOrder
      exact .inr (Int.natCast_inj.mp (Value.int.inj lastOrder)).symm
  · rintro (inside | rfl)
    · have isShown : left[other]? = some left[other] := List.getElem?_eq_getElem (by omega)
      have stored := List.mem_map_of_mem (f := (·.id)) (List.mem_of_getElem? isShown)
      exact .inl ⟨_, isShown, (members _).mpr (.inr ⟨_, stored, rfl⟩)⟩
    · exact .inr ⟨field, (members _).mpr (.inl rfl), isOrder⟩

/-- Deleting a field of a listed form leaves the form enumerated only where the field is the last
one. -/
theorem enumerated_delete_iff {form : Form}
    (isCurrent : (session.delete (.str field.id)).session.currentForm? = some form) :
    Enumerated form.fields ↔ place + 1 = session.store.fields.length := by
  have inside := (List.getElem?_eq_some_iff.mp isThere).1
  have afterKeeps : (session.delete (.str field.id)).session.KeepsMembers :=
    keeps.perform (.delete (.str field.id))
  obtain ⟨-, count, -⟩ := delete_of_listed keeps listed isThere
  rw [afterKeeps.enumerated_iff isCurrent, afterKeeps.length_fields isCurrent, count]
  simp only [hasMemberAt_delete_iff keeps listed isThere]
  constructor
  · intro covered
    have last := covered (session.store.fields.length - 1) (by omega)
    omega
  · intro isLast other inList
    omega

end

/-- Deleting makes no form. -/
theorem currentForm?_delete_of_none (formless : session.current = none) (id : Value) :
    (session.delete id).session.currentForm? = none := by
  unfold Session.delete
  split <;> simp [currentForm?, unchanged, formless]

/-- The orders that the current form shows. In every session that calls lead to, no two fields of
the form share an id and every order is the number of a place, but it need not be that every place
of a list of their number occurs once: this is so exactly if a member stands, or has stood last, at
each of these places. It is so after a call that lists the fields of the store, and stays so while
no field is taken away and none is moved after one was added. It is so no more once a field is
deleted, unless it is the last one. -/
theorem currentForm_enumerated_iff (ids : IdSource) (clock : Clock) (yaml : YamlLibrary) :
    (∀ calls form, ((new ids clock yaml).run calls).currentForm? = some form →
      form.fieldIds.Nodup ∧ (∀ field ∈ form.fields, ∃ place : Nat, field.order = .int place) ∧
        (Enumerated form.fields ↔
          ∀ place < form.fields.length, ((new ids clock yaml).run calls).HasMemberAt place)) ∧
    ∀ calls call, ((new ids clock yaml).run calls).Lists call →
      let listed := (((new ids clock yaml).run calls).perform call).session
      (∀ later form, KeepFirst later → (listed.run later).currentForm? = some form →
        Enumerated form.fields) ∧
      ∀ place field form, listed.store.fields[place]? = some field →
        (listed.delete (.str field.id)).session.currentForm? = some form →
          (Enumerated form.fields ↔ place + 1 = listed.store.fields.length) := by
  have keeps (calls : List SessionCall) : ((new ids clock yaml).run calls).KeepsMembers :=
    (keepsMembers_new ids clock yaml).run calls
  refine ⟨fun calls form isCurrent => ?_, fun calls call lists => ⟨?_, ?_⟩⟩
  · refine ⟨(keeps calls).distinct_fields isCurrent, fun field inForm => ?_,
      (keeps calls).enumerated_iff isCurrent⟩
    obtain ⟨place, isOrder, -⟩ := (keeps calls).exists_place isCurrent inForm
    exact ⟨place, isOrder⟩
  · intro later form keepFirst isCurrent
    have listedKeeps := (keeps calls).perform call
    have allOrNone : (((new ids clock yaml).run calls).perform call).session.HasAllOrNone := by
      rcases lists.members with all | none
      · exact .inr (.of_eq all)
      · exact .inl (by simp [members, none])
    exact (hasFirst_run listedKeeps.store keepFirst (.inl allOrNone)).enumerated
      (listedKeeps.run later).store isCurrent
  · intro place field form isThere isCurrent
    have listedKeeps := (keeps calls).perform call
    rcases lists.members with all | none
    · exact enumerated_delete_iff listedKeeps all isThere isCurrent
    · rw [currentForm?_delete_of_none none] at isCurrent
      cases isCurrent

/-- A form with two fields. -/
def draftCalls : List SessionCall :=
  [.create (.str "Visit") (.str ""), .add (.str "text") [], .add (.str "date") []]

/-- Once it is saved the form is enumerated, and an addition leaves it so. Deleting its first field
does not: the field that is gone and the one that is left show the same order. -/
theorem currentForm_enumerated_iff_draftCalls :
    let saved := ((new (.counting "f") (.still .startOf2024) Yaml.library).run (draftCalls ++ [.save]))
    ∃ extended shortened,
      (saved.run [.add (.str "number") []]).currentForm? = some extended ∧
      Enumerated extended.fields ∧
      (saved.delete (.str "f2")).session.currentForm? = some shortened ∧
      shortened.fields.map (·.order) = [.int 0, .int 0] ∧
      shortened.fieldIds.Nodup ∧ ¬Enumerated shortened.fields := by
  intro saved
  obtain ⟨reached, listed⟩ :=
    currentForm_enumerated_iff (.counting "f") (.still .startOf2024) Yaml.library
  obtain ⟨whileKept, whenDeleted⟩ := listed draftCalls .save ⟨rfl, rfl⟩
  have keepFirst : KeepFirst [.add (.str "number") []] :=
    ⟨by simp [SessionCall.losesFields], List.pairwise_singleton _ _⟩
  obtain ⟨distinct, -, -⟩ := reached (draftCalls ++ [.save, .delete (.str "f2")]) _ rfl
  have notLast : ¬0 + 1 = saved.store.fields.length := by decide
  exact ⟨_, _, rfl, whileKept _ _ keepFirst rfl, rfl, rfl, distinct,
    (whenDeleted 0 _ _ rfl rfl).not.mpr notLast⟩

end Session

end FormEngine
