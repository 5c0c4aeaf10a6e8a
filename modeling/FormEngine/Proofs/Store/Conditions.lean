import FormEngine.Proofs.Field.Content
import FormEngine.Proofs.Store.Deletion
import FormEngine.Proofs.Store.Options
import FormEngine.Store.Run

/-!
# Where conditions come from

A store makes no conditions of its own: every condition of a field was given by a call that added
or changed a field, or came with a field that was handed over. Stray values among them are taken
like conditions. So a deletion that is interrupted by a stray value, with the field gone and the
conditions on it left in part, goes back to a call that gave such a value.
-/

namespace FormEngine

/-- Attributes that give an entry for the conditions of a field. -/
def Attributes.GiveCondition (attributes : Attributes) (entry : Entry ConditionalRule) : Prop :=
  ∃ listing entries, attributes.conditionalRules? = some listing ∧
    listing.toEntries = .ok entries ∧ entry ∈ entries

/-- A call that gives an entry for the conditions of a field. -/
def StoreCall.GivesCondition (entry : Entry ConditionalRule) : StoreCall → Prop
  | .add _ attributes | .update _ attributes => attributes.GiveCondition entry
  | .replace fields => ∃ field ∈ fields, entry ∈ field.conditionalRules
  | _ => False

/-- All conditions of some fields are of a kind. -/
def AllConditions (holds : Entry ConditionalRule → Prop) (fields : List Field) : Prop :=
  ∀ field ∈ fields, ∀ entry ∈ field.conditionalRules, holds entry

namespace FieldContent

variable {holds : Entry ConditionalRule → Prop} {attributes : Attributes}

/-- Conditions that are given by attributes or were there before. -/
theorem conditions_of_givenOr {before entries : List (Entry ConditionalRule)}
    (isGiven : GivenOr Listing.Lists attributes.conditionalRules? before entries)
    (kept : ∀ entry ∈ before, holds entry)
    (given : ∀ entry, attributes.GiveCondition entry → holds entry) :
    ∀ entry ∈ entries, holds entry := by
  intro entry member
  cases asked : attributes.conditionalRules? with
  | none =>
    rw [asked] at isGiven
    obtain rfl : entries = before := isGiven
    exact kept entry member
  | some listing =>
    rw [asked] at isGiven
    exact given entry ⟨listing, entries, asked, Listing.toEntries_eq_ok_iff.mpr isGiven, member⟩

end FieldContent

namespace AllConditions

variable {holds : Entry ConditionalRule → Prop} {fields others : List Field}

/-- Conditions of fewer fields. -/
theorem subset (all : AllConditions holds fields) (subset : others ⊆ fields) :
    AllConditions holds others :=
  fun field member => all field (subset member)

/-- Conditions of the same fields under other numbers. -/
theorem renumber (all : AllConditions holds fields) : AllConditions holds (renumber fields) := by
  intro field member
  obtain ⟨original, inFields, position, rfl⟩ := mem_renumber member
  exact all original inFields

/-- Conditions on other ids. -/
theorem scrubbed (all : AllConditions holds fields) (id : String) :
    AllConditions holds (fields.map (Field.scrubbed id)) := by
  intro field member entry kept
  obtain ⟨original, inFields, rfl⟩ := List.mem_map.mp member
  exact all original inFields entry (List.mem_of_mem_filter kept)

theorem append (all : AllConditions holds fields) (allOthers : AllConditions holds others) :
    AllConditions holds (fields ++ others) := by
  intro field member
  rcases List.mem_append.mp member with first | second
  · exact all field first
  · exact allOthers field second

end AllConditions

namespace FieldStore

variable {holds : Entry ConditionalRule → Prop} {store after : FieldStore}

/-- A field that is added has the conditions that are given. -/
theorem conditions_add (all : AllConditions holds store.fields) (type : Value)
    {attributes : Attributes} (given : ∀ entry, attributes.GiveCondition entry → holds entry) :
    AllConditions holds (store.add type attributes).state.fields := by
  generalize outcome : store.add type attributes = came
  cases outcome ▸ store.addition type attributes with
  | refused | exhausted => exact all
  | added _ _ new =>
    refine all.append fun field member => ?_
    obtain rfl := List.mem_singleton.mp member
    exact FieldContent.conditions_of_givenOr new.conditionalRules (by simp [FieldContent.template])
      given

/-- A field that is changed has the conditions that are given, or else those that it had. -/
theorem conditions_update (all : AllConditions holds store.fields) {id : Value}
    {attributes : Attributes} (given : ∀ entry, attributes.GiveCondition entry → holds entry)
    {field : Field} (done : store.update id attributes = .ok (field, after)) :
    AllConditions holds after.fields := by
  obtain ⟨-, place, before, first, -, -, -, merges, rfl⟩ := update_eq_ok_iff.mp done
  intro other member
  rcases List.mem_or_eq_of_mem_set member with wasThere | rfl
  · exact all other wasThere
  · exact FieldContent.conditions_of_givenOr merges.conditionalRules
      (all before (List.mem_of_getElem? first.there)) given

/-- Deleting a field, or failing to, gives no conditions. -/
theorem conditions_delete (orderly : store.Orderly) (all : AllConditions holds store.fields)
    (id : Value) : AllConditions holds (store.delete id).state.fields := by
  have remaining (text : String) : AllConditions holds (renumber (store.fieldsWithout text)) :=
    (all.subset (List.filter_sublist.subset)).renumber
  generalize outcome : store.delete id = deleted
  cases outcome ▸ deletion orderly.distinct id with
  | absent => exact all
  | @complete text _ _ numbered =>
    exact (numbered ▸ remaining text).scrubbed text
  | @interrupted text _ before after field _ numbered =>
    have split : AllConditions holds (before ++ field :: after) := numbered ▸ remaining text
    exact ((split.subset (List.subset_append_left ..)).scrubbed text).append
      (split.subset (List.subset_append_right ..))

/-- Fields that replace others have the conditions that they came with. -/
theorem conditions_replace {fields : List Field} (given : AllConditions holds fields)
    (done : store.replace fields = .ok after) : AllConditions holds after.fields := by
  obtain ⟨sorted, permuted, -, rfl⟩ := replace_eq_ok done
  exact (given.subset permuted.subset).renumber

/-- Moving a field gives no conditions. -/
theorem conditions_move (all : AllConditions holds store.fields) {source target : Value}
    (done : store.move source target = .ok after) : AllConditions holds after.fields := by
  obtain ⟨moved, permuted, rfl⟩ := move_eq_ok done
  exact (all.subset permuted.subset).renumber

/-- After a call all conditions are of a kind if they were before and if those are that it gives. -/
theorem conditions_perform (orderly : store.Orderly) (all : AllConditions holds store.fields)
    {call : StoreCall} (given : ∀ entry, call.GivesCondition entry → holds entry) :
    AllConditions holds (store.perform call).state.fields := by
  let keeps (after : FieldStore) : Prop := AllConditions holds after.fields
  cases call with
  | add type attributes => exact conditions_add all type given
  | update id attributes =>
    exact keeps_ofExcept keeps all fun _ _ done => conditions_update all given done
  | delete id => exact conditions_delete orderly all id
  | move source target => exact keeps_changed keeps all fun _ done => conditions_move all done
  | select id =>
    refine keeps_changed keeps all fun after done => ?_
    have same : after.fields = store.fields := fields_of_select done
    simpa only [keeps, same] using all
  | replace fields =>
    have handedOver : AllConditions holds fields :=
      fun field member entry inField => given entry ⟨field, member, inField⟩
    exact keeps_changed keeps all fun _ done => conditions_replace handedOver done

/-- After calls all conditions are of a kind if they were before and if those are that the calls
give. -/
theorem conditions_run (orderly : store.Orderly) (all : AllConditions holds store.fields)
    {calls : List StoreCall}
    (given : ∀ call ∈ calls, ∀ entry, call.GivesCondition entry → holds entry) :
    AllConditions holds (store.run calls).fields := by
  induction calls generalizing store with
  | nil => exact all
  | cons call rest inductionHypothesis =>
    obtain ⟨givenFirst, givenLater⟩ := List.forall_mem_cons.mp given
    exact inductionHypothesis (orderly.perform call)
      (conditions_perform orderly all givenFirst) givenLater

/-- In every state of every run from an empty store, a deletion is one of those described. So it
gives a number, or finds nothing to delete, changes nothing and names the id if that can be written,
or fails on a stray value that some call before gave for a condition. -/
theorem deletion_of_run (ids : IdSource) (calls : List StoreCall) (id : Value) :
    let store := ({ ids } : FieldStore).run calls
    store.Deletion id (store.delete id) ∧
      ((∃ count, (store.delete id).result = .ok count) ∨
        store.delete id =
          ⟨.error (if id.hasOverlong then .integerUnwritten else .unknownField id), store⟩ ∨
        ∃ call ∈ calls, ∃ value, call.GivesCondition (.stray value) ∧
          (store.delete id).result =
            .error (.missingPart value.kindName "trigger_field_id")) := by
  intro store
  have orderly : store.Orderly := (orderly_empty ids).run calls
  have deleted := deletion orderly.distinct id
  refine ⟨deleted, ?_⟩
  generalize store.delete id = outcome at deleted
  cases deleted with
  | absent =>
    have told := Fault.told_of_named (.unknownField id) rfl
    exact .inr (.inl (by rw [told]))
  | complete => exact .inl ⟨_, rfl⟩
  | @interrupted text _ before after field value numbered _ stray =>
    have fromCalls : AllConditions (fun entry => ∃ call ∈ calls, call.GivesCondition entry)
        store.fields :=
      conditions_run (orderly_empty ids) (by simp [AllConditions])
        fun call member entry gives => ⟨call, member, gives⟩
    have inRemaining : field ∈ renumber (store.fieldsWithout text) := by simp [← numbered]
    obtain ⟨original, inOthers, position, rfl⟩ := mem_renumber inRemaining
    obtain ⟨entry, inField, isStray⟩ := List.exists_of_findSome?_eq_some stray
    obtain ⟨call, member, gives⟩ :=
      fromCalls original (List.mem_of_mem_filter inOthers) entry inField
    cases entry with
    | proper rule => cases isStray
    | stray other =>
      obtain rfl := Option.some.inj isStray
      exact .inr (.inr ⟨call, member, other, gives, rfl⟩)

/-- A number among the conditions of a field interrupts the deletion of another field: that one is
gone, and so is the condition on it from the field before the number, but the field behind the
number keeps its condition. -/
theorem deletion_of_run_strayNumber :
    let onFirst : Entry ConditionalRule := .proper { trigger := .str "a" }
    let calls : List StoreCall := [
      .add (.str "text") [],
      .add (.str "text") [.conditionalRules (.entries [onFirst])],
      .add (.str "text") [.conditionalRules (.entries [.stray (.int 5)])],
      .add (.str "text") [.conditionalRules (.entries [onFirst])]]
    let store := ({ ids := .endingWith ["a", "b", "c", "d"] } : FieldStore).run calls
    store.Deletion (.str "a") (store.delete (.str "a")) ∧
      (store.delete (.str "a")).result = .error (.missingPart "int" "trigger_field_id") ∧
      (store.delete (.str "a")).state.fieldIds = ["b", "c", "d"] ∧
      (store.delete (.str "a")).state.fields.map (·.conditionalRules) =
        [[], [.stray (.int 5)], [onFirst]] := by
  intro onFirst calls store
  exact ⟨(deletion_of_run _ calls (.str "a")).1, by rfl, by decide +kernel, by decide +kernel⟩

end FieldStore

end FormEngine
