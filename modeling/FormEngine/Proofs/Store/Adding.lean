import FormEngine.Proofs.Field.Content
import FormEngine.Store.Basic
import Mathlib.Order.Nat

/-!
# Adding a field

A field that is added goes behind the others, under the first of the coming ids that none of them
has. The search for it ends after a number of ids, and the addition fails if all of these are
taken. Attributes that can be read make content for any type, and the attributes of a field make
its own content again.
-/

namespace FormEngine

/-- Something is what is given exactly if what is given can be read. -/
theorem exists_givenOr_iff {α β : Type} {reads : α → β → Prop} {given : Option α} {otherwise : β} :
    (∃ part, GivenOr reads given otherwise part) ↔
      ∀ value, given = some value → ∃ part, reads value part := by
  cases given with
  | none => simp [GivenOr]
  | some value => simp [GivenOr]

/-- Attributes that fields have and that can be read: the type names one, options can be made of
what is given for them, and the lists of rules list something. -/
structure Attributes.AreValid (attributes : Attributes) : Prop where
  known : ∀ part ∈ attributes, part.isUnknown = false
  type : ∀ value, attributes.type? = some value → ∃ type, value.NamesType type
  options : ∀ given, attributes.options? = some given → ∃ options, given.Offers options
  validationRules :
    ∀ given, attributes.validationRules? = some given → ∃ entries, given.Lists entries
  conditionalRules :
    ∀ given, attributes.conditionalRules? = some given → ∃ entries, given.Lists entries

namespace FieldContent

/-- Attributes that fields have make content for a type exactly if they can be read. -/
theorem exists_isNew_iff {base : FieldType} {attributes : Attributes} :
    ((∀ part ∈ attributes, part.isUnknown = false) ∧
      ∃ content : FieldContent, content.IsNew base attributes) ↔ attributes.AreValid := by
  constructor
  · rintro ⟨known, content, new⟩
    obtain ⟨options, offered, -⟩ := new.options
    exact ⟨known, exists_givenOr_iff.mp ⟨_, new.type⟩, exists_givenOr_iff.mp ⟨_, offered⟩,
      exists_givenOr_iff.mp ⟨_, new.validationRules⟩,
      exists_givenOr_iff.mp ⟨_, new.conditionalRules⟩⟩
  · intro valid
    let blank := template base
    obtain ⟨type, isType⟩ : ∃ type, GivenOr Value.NamesType attributes.type? blank.type type :=
      exists_givenOr_iff.mpr valid.type
    obtain ⟨options, offered⟩ : ∃ options,
        GivenOr Listing.Offers attributes.options? blank.options options :=
      exists_givenOr_iff.mpr valid.options
    obtain ⟨rules, areRules⟩ : ∃ rules,
        GivenOr Listing.Lists attributes.validationRules? blank.validationRules rules :=
      exists_givenOr_iff.mpr valid.validationRules
    obtain ⟨conditions, areConditions⟩ : ∃ conditions,
        GivenOr Listing.Lists attributes.conditionalRules? blank.conditionalRules conditions :=
      exists_givenOr_iff.mpr valid.conditionalRules
    let content : FieldContent := {
      type
      label := attributes.label?.getD blank.label
      placeholder := attributes.placeholder?.getD blank.placeholder
      description := attributes.description?.getD blank.description
      required := attributes.required?.getD blank.required
      options :=
        if !type.isChoice then [] else if options.isEmpty then defaultOptions else options
      validationRules := rules
      conditionalRules := conditions
      defaultValue := attributes.defaultValue?.getD blank.defaultValue }
    exact ⟨valid.known, content, ⟨isType, rfl, rfl, rfl, rfl, areRules, areConditions, rfl⟩,
      ⟨options, offered, rfl⟩⟩

/-- The content of a field that is added is made exactly if fields have all the attributes and it is
new for a type that is named. -/
theorem made_eq_ok_iff {word : Value} {attributes : Attributes} {content : FieldContent} :
    (attributes.checkKnown >>= fun _ => create word attributes) = .ok content ↔
      (∀ part ∈ attributes, part.isUnknown = false) ∧
        ∃ base, word.NamesType base ∧ content.IsNew base attributes := by
  simp only [Result.bind_eq_ok_iff, Attributes.checkKnown_eq_ok_iff, create_eq_ok_iff,
    exists_and_left, exists_const]

end FieldContent

/-- The attributes of a field can be read. -/
theorem Field.areValid_attributes (field : Field) : field.attributes.AreValid where
  known := by simp [attributes, Attribute.isUnknown]
  type := by
    rintro _ ⟨⟩
    exact ⟨field.type, rfl⟩
  options := by
    rintro _ ⟨⟩
    exact ⟨field.options, Listing.offers_proper field.options⟩
  validationRules := by
    rintro _ ⟨⟩
    exact ⟨_, .entries _⟩
  conditionalRules := by
    rintro _ ⟨⟩
    exact ⟨_, .entries _⟩

/-- They make the content of the field for any type, if it has options exactly if its own type
offers some. -/
theorem Field.isNew_attributes (field : Field) (base : FieldType)
    (options : field.options ≠ [] ↔ field.isChoice = true) :
    field.toFieldContent.IsNew base field.attributes where
  type := rfl
  label := rfl
  placeholder := rfl
  description := rfl
  required := rfl
  validationRules := .entries _
  conditionalRules := .entries _
  defaultValue := rfl
  options := by
    refine ⟨field.options, Listing.offers_proper field.options, ?_⟩
    change field.options ≠ [] ↔ field.type.isChoice = true at options
    cases isChoice : field.type.isChoice with
    | false => simpa [isChoice] using options
    | true =>
      have someOptions : field.options ≠ [] := options.mpr isChoice
      simp [someOptions]

namespace IdSource

/-- One of the ids that a source will give, counted from the next. -/
def coming (ids : IdSource) (index : Nat) : String :=
  ids.stream (ids.drawn + index)

/-- A source after a number of ids were drawn. -/
def after (ids : IdSource) (count : Nat) : IdSource :=
  { ids with drawn := ids.drawn + count }

@[simp] theorem coming_after (ids : IdSource) (count index : Nat) :
    (ids.after count).coming index = ids.coming (count + index) := by
  rw [coming, coming, after, Nat.add_assoc]

@[simp] theorem after_after (ids : IdSource) (count more : Nat) :
    (ids.after count).after more = ids.after (count + more) := by
  simp only [after, Nat.add_assoc]

/-- The coming id at an index is the first one that is not taken. -/
structure IsFirstFree (ids : IdSource) (taken : List String) (index : Nat) : Prop where
  free : ids.coming index ∉ taken
  earlier : ∀ before < index, ids.coming before ∈ taken

/-- Among the next ids there is a first one that is not taken, or else all are taken. -/
theorem exists_isFirstFree_or (ids : IdSource) (taken : List String) (attempts : Nat) :
    (∃ index < attempts, ids.IsFirstFree taken index) ∨
      ∀ index < attempts, ids.coming index ∈ taken := by
  by_cases free : ∃ index, index < attempts ∧ ids.coming index ∉ taken
  · obtain ⟨inTime, isFree⟩ := Nat.find_spec free
    refine .inl ⟨Nat.find free, inTime, isFree, fun before smaller => ?_⟩
    exact of_not_not fun notTaken => Nat.find_min free smaller ⟨smaller.trans inTime, notTaken⟩
  · exact .inr fun index inTime => of_not_not fun notTaken => free ⟨index, inTime, notTaken⟩

end IdSource

namespace FieldStore

variable {taken : List String} {attempts : Nat} {ids : IdSource}

/-- The search takes the next id, or goes on behind it. -/
theorem freshId_succ : freshId taken ids (attempts + 1) =
    if ids.coming 0 ∈ taken then freshId taken (ids.after 1) attempts
    else (some (ids.coming 0), ids.after 1) := by
  simp only [freshId, List.contains_iff_mem]
  rfl

/-- The search ends at the first id that is not taken. -/
theorem freshId_of_isFirstFree {index : Nat} (first : ids.IsFirstFree taken index)
    (inTime : index < attempts) :
    freshId taken ids attempts = (some (ids.coming index), ids.after (index + 1)) := by
  induction attempts generalizing ids index with
  | zero => omega
  | succ attempts inductionHypothesis =>
    rw [freshId_succ]
    cases index with
    | zero => rw [if_neg first.free]
    | succ index =>
      have later : (ids.after 1).IsFirstFree taken index := {
        free := by simpa [Nat.add_comm] using first.free
        earlier := fun before smaller => by
          simpa [Nat.add_comm] using first.earlier (before + 1) (by omega) }
      rw [if_pos (first.earlier 0 (Nat.succ_pos index)), inductionHypothesis later (by omega),
        IdSource.coming_after, IdSource.after_after, Nat.add_comm 1, Nat.add_comm 1]

/-- The search gives up when its attempts are used up and all ids were taken. -/
theorem freshId_of_taken (allTaken : ∀ index < attempts, ids.coming index ∈ taken) :
    freshId taken ids attempts = (none, ids.after attempts) := by
  induction attempts generalizing ids with
  | zero => rfl
  | succ attempts inductionHypothesis =>
    have later : ∀ index < attempts, (ids.after 1).coming index ∈ taken := fun index smaller => by
      simpa [Nat.add_comm] using allTaken (index + 1) (by omega)
    rw [freshId_succ, if_pos (allTaken 0 (Nat.succ_pos attempts)), inductionHypothesis later,
      IdSource.after_after, Nat.add_comm 1]

section

variable {store : FieldStore} {type : Value} {attributes : Attributes} {content : FieldContent}

/-- A field with some content, for the place behind the others and under one of the coming ids. -/
def newField (store : FieldStore) (content : FieldContent) (index : Nat) : Field :=
  { content with id := store.ids.coming index, order := .int store.fields.length }

/-- A store with a new field, which is selected. -/
def withNewField (store : FieldStore) (content : FieldContent) (index : Nat) : FieldStore :=
  { store with
    fields := store.fields ++ [store.newField content index]
    selected := some (store.ids.coming index)
    ids := store.ids.after (index + 1) }

/-- The id of the new field comes behind the others. -/
@[simp] theorem fieldIds_withNewField (store : FieldStore) (content : FieldContent) (index : Nat) :
    (store.withNewField content index).fieldIds = store.fieldIds ++ [store.ids.coming index] :=
  List.map_append

/-- Content that is made is added under the first of the next ids that is not taken. -/
theorem add_of_isFirstFree
    (made : (attributes.checkKnown >>= fun _ => FieldContent.create type attributes) =
      .ok content)
    {index : Nat} (inTime : index < idAttempts)
    (first : store.ids.IsFirstFree store.fieldIds index) :
    store.add type attributes =
      ⟨.ok (store.newField content index), store.withNewField content index⟩ := by
  simp only [add, made, freshId_of_isFirstFree first inTime, append, newField, withNewField]

/-- Nothing is added if all the next ids are taken. -/
theorem add_of_taken
    (made : (attributes.checkKnown >>= fun _ => FieldContent.create type attributes) =
      .ok content)
    (allTaken : ∀ index < idAttempts, store.ids.coming index ∈ store.fieldIds) :
    store.add type attributes =
      ⟨.error .idsExhausted, { store with ids := store.ids.after idAttempts }⟩ := by
  simp only [add, made, freshId_of_taken allTaken]

/-- What adding a field may come to. -/
inductive Addition (store : FieldStore) (type : Value) (attributes : Attributes) :
    Outcome FieldStore Field → Prop
  /-- No field can be made, and nothing changes. -/
  | refused {fault : Fault} (unread : ¬((∃ base, type.NamesType base) ∧ attributes.AreValid)) :
      Addition store type attributes ⟨.error fault, store⟩
  /-- All ids are taken that were drawn. -/
  | exhausted (read : (∃ base, type.NamesType base) ∧ attributes.AreValid)
      (allTaken : ∀ index < idAttempts, store.ids.coming index ∈ store.fieldIds) :
      Addition store type attributes
        ⟨.error .idsExhausted, { store with ids := store.ids.after idAttempts }⟩
  /-- A field is added. -/
  | added {base : FieldType} {content : FieldContent} {index : Nat} (named : type.NamesType base)
      (valid : attributes.AreValid) (new : content.IsNew base attributes)
      (first : store.ids.IsFirstFree store.fieldIds index) :
      Addition store type attributes
        ⟨.ok (store.newField content index), store.withNewField content index⟩

/-- An addition comes to one of these. -/
theorem addition (store : FieldStore) (type : Value) (attributes : Attributes) :
    store.Addition type attributes (store.add type attributes) := by
  cases made : attributes.checkKnown >>= fun _ => FieldContent.create type attributes with
  | error fault =>
    have refused : store.add type attributes = ⟨.error fault, store⟩ := by simp only [add, made]
    rw [refused]
    refine .refused ?_
    rintro ⟨⟨base, named⟩, valid⟩
    obtain ⟨known, content, new⟩ := FieldContent.exists_isNew_iff.mpr valid
    rw [FieldContent.made_eq_ok_iff.mpr ⟨known, base, named, new⟩] at made
    cases made
  | ok content =>
    obtain ⟨known, base, named, new⟩ := FieldContent.made_eq_ok_iff.mp made
    have valid := FieldContent.exists_isNew_iff.mp ⟨known, content, new⟩
    rcases store.ids.exists_isFirstFree_or store.fieldIds idAttempts with
      ⟨index, inTime, first⟩ | allTaken
    · rw [add_of_isFirstFree made inTime first]
      exact .added named valid new first
    · rw [add_of_taken made allTaken]
      exact .exhausted ⟨⟨base, named⟩, valid⟩ allTaken

end

/-- Adding a field gives one with some content. It stands behind the others, which stay as they are,
under the first of the next ids that none of them has, and it is selected. If all these ids are
taken, the addition fails and nothing but the source of ids is changed. -/
structure Appends (store : FieldStore) (type : Value) (attributes : Attributes)
    (content : FieldContent) : Prop where
  fresh : ∀ index < idAttempts, store.ids.IsFirstFree store.fieldIds index →
    store.add type attributes =
      ⟨.ok (store.newField content index), store.withNewField content index⟩
  exhausted : (∀ index < idAttempts, store.ids.coming index ∈ store.fieldIds) →
    store.add type attributes =
      ⟨.error .idsExhausted, { store with ids := store.ids.after idAttempts }⟩

/-- Content of a new field is added to a store. -/
theorem appends_of_isNew (store : FieldStore) {base : FieldType} {attributes : Attributes}
    {content : FieldContent} (known : ∀ part ∈ attributes, part.isUnknown = false)
    (new : content.IsNew base attributes) :
    store.Appends (.str base.wire) attributes content := by
  have made := FieldContent.made_eq_ok_iff.mpr ⟨known, base, rfl, new⟩
  exact ⟨fun index inTime first => add_of_isFirstFree made inTime first, add_of_taken made⟩

/-- A field of a type is added to a store by attributes that can be read, with what these give and
otherwise what the template of the type has. It has options exactly if its own type offers some. If
the ids run out, the engine reports it. The attributes of a field of the store make one that differs
from it in its id and its order only. Other attributes are refused and nothing changes. -/
theorem add_appends (store : FieldStore) :
    (∀ base : FieldType, ∀ attributes : Attributes, attributes.AreValid →
      ∃ content : FieldContent, content.IsNew base attributes ∧
        (content.options ≠ [] ↔ content.type.isChoice = true) ∧
        store.Appends (.str base.wire) attributes content) ∧
    (∀ field ∈ store.fields, (field.options ≠ [] ↔ field.isChoice = true) → ∀ base : FieldType,
      store.Appends (.str base.wire) field.attributes field.toFieldContent) ∧
    (∀ type attributes, ¬((∃ base, type.NamesType base) ∧ attributes.AreValid) →
      ∃ fault, store.add type attributes = ⟨.error fault, store⟩) ∧
    Fault.idsExhausted.category = .engine := by
  refine ⟨fun base attributes valid => ?valid, fun field _ options base => ?copied,
    fun type attributes invalid => ?refused, rfl⟩
  case valid =>
    obtain ⟨known, content, new⟩ := FieldContent.exists_isNew_iff.mpr valid
    exact ⟨content, new, new.options_ne_nil_iff, store.appends_of_isNew known new⟩
  case copied =>
    exact store.appends_of_isNew field.areValid_attributes.known
      (field.isNew_attributes base options)
  case refused =>
    generalize outcome : store.add type attributes = came
    cases outcome ▸ store.addition type attributes with
    | refused => exact ⟨_, rfl⟩
    | exhausted read => exact absurd read invalid
    | added named valid => exact absurd ⟨⟨_, named⟩, valid⟩ invalid

/-- A field with options is added under the third id, as two fields have the first ones; the rule
of the template that it starts from is dropped. A source of one id, which is taken, has none for
it. Each of the two fields can be copied. -/
theorem add_appends_thirdId :
    let store : FieldStore := {
      ids := .startingWith ["a", "b", "c"] "f"
      fields := renumber (["a", "b"].map fun id =>
        { type := .text, label := .str "Name", id }) }
    let poor : FieldStore := { store with ids := .endingWith ["b"] }
    let attributes : Attributes :=
      [.type (.str "select"), .options (.value (.list [.str "Red"])), .order (.int 7),
        .validationRules (.value .null), .label (.str "Colour")]
    let field : Field := {
      type := .select
      label := .str "Colour"
      placeholder := .str ""
      description := .str ""
      options := [⟨"Red", "Red"⟩]
      id := "c"
      order := .int 2 }
    attributes.AreValid ∧ store.ids.IsFirstFree store.fieldIds 2 ∧
      store.add (.str "email") attributes = ⟨.ok field, { store with
        ids := store.ids.after 3, fields := store.fields ++ [field], selected := some "c" }⟩ ∧
      (poor.add (.str "email") attributes).result = .error .idsExhausted ∧
      ∀ stored ∈ store.fields, ∃ copy, copy.toFieldContent = stored.toFieldContent ∧
        (store.add (.str "email") stored.attributes).result = .ok copy := by
  intro store poor attributes field
  have valid : attributes.AreValid := {
    known := by decide
    type := by
      rintro _ ⟨⟩
      exact ⟨.select, rfl⟩
    options := by
      rintro _ ⟨⟩
      exact ⟨_, _, .items rfl rfl, rfl⟩
    validationRules := by
      rintro _ ⟨⟩
      exact ⟨[], .nothing rfl⟩
    conditionalRules := by rintro _ ⟨⟩ }
  have first : store.ids.IsFirstFree store.fieldIds 2 := ⟨by decide, by decide⟩
  obtain ⟨adds, copies, -, -⟩ := add_appends store
  obtain ⟨content, -, -, appends⟩ := adds .email attributes valid
  obtain ⟨poorContent, -, -, runsOut⟩ := (add_appends poor).1 .email attributes valid
  have added := appends.fresh 2 (by decide) first
  have same : content = field.toFieldContent := by
    have computed : (store.add (.str "email") attributes).result = .ok field := by rfl
    rw [show Value.str "email" = .str FieldType.email.wire from rfl, added] at computed
    exact congrArg Field.toFieldContent (Except.ok.inj computed)
  subst same
  refine ⟨valid, first, added, ?poor, fun stored member => ?copied⟩
  case poor =>
    have allTaken : ∀ index < idAttempts, poor.ids.coming index ∈ poor.fieldIds := fun index _ => by
      simp [poor, IdSource.coming, IdSource.endingWith, fieldIds, store, renumber, Field.withOrder]
    exact congrArg Outcome.result (runsOut.exhausted allTaken)
  case copied =>
    have options : ∀ field ∈ store.fields, field.options ≠ [] ↔ field.isChoice = true := by decide
    have copied := (copies stored member (options stored member) .email).fresh 2 (by decide) first
    exact ⟨{ stored with id := "c", order := .int 2 }, rfl, congrArg Outcome.result copied⟩

end FieldStore

end FormEngine
