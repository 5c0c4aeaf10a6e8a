import FormEngine.Field.Attribute
import FormEngine.Proofs.Field.Vocabulary

/-!
# Content made of attributes

Each part of the content of a field is the attribute that is given for it, read as the part asks,
or else what it is without. However content is made or changed, it has the options that its type
needs.
-/

namespace FormEngine

/-- A part is what is read of what is given for it, or what is there otherwise. -/
def GivenOr {α β : Type} (reads : α → β → Prop) (given : Option α) (otherwise part : β) : Prop :=
  given.elim (part = otherwise) (reads · part)

/-- Reading what is given, or taking what is there otherwise, gives the part. -/
theorem elim_eq_ok_iff {α β : Type} {read : α → Except Fault β} {reads : α → β → Prop}
    (reading : ∀ value part, read value = .ok part ↔ reads value part) {given : Option α}
    {otherwise part : β} :
    given.elim (pure otherwise) read = .ok part ↔ GivenOr reads given otherwise part := by
  cases given with
  | none => simp [GivenOr, eq_comm]
  | some value => exact reading value part

namespace Attributes

variable {attributes : Attributes} {done : Unit}

/-- No attribute is refused as unknown exactly if fields have them all. -/
theorem checkKnown_eq_ok_iff :
    attributes.checkKnown = .ok done ↔ ∀ part ∈ attributes, part.isUnknown = false := by
  simp [checkKnown]

/-- No attribute is refused as locked exactly if none is for the store alone to set. -/
theorem checkUnlocked_eq_ok_iff :
    attributes.checkUnlocked = .ok done ↔ ∀ part ∈ attributes, part.isLocked = false := by
  simp [checkUnlocked]

end Attributes

/-- The entries that are listed: those of a list, none by a value that holds nothing, and by any
other value its items. -/
inductive Listing.Lists {α : Type} : Listing α → List (Entry α) → Prop
  | entries (entries : List (Entry α)) : Lists (.entries entries) entries
  | nothing {value : Value} (holdsNothing : value.truthy = false) : Lists (.value value) []
  | items {value : Value} {items : List Value} (holdsSome : value.truthy = true)
      (held : value.items? = some items) : Lists (.value value) (items.map .stray)

/-- Entries are read of a listing exactly if it lists them. -/
theorem Listing.toEntries_eq_ok_iff {α : Type} {given : Listing α} {entries : List (Entry α)} :
    given.toEntries = .ok entries ↔ given.Lists entries := by
  constructor
  · intro read
    cases given with
    | entries items =>
      obtain rfl := Except.ok.inj read
      exact .entries items
    | value value =>
      simp only [toEntries] at read
      split at read
      · next holdsNothing =>
        obtain rfl := Except.ok.inj read
        exact .nothing (by simpa using holdsNothing)
      · next holdsSome =>
        split at read
        · next items held =>
          obtain rfl := Except.ok.inj read
          exact .items (by simpa using holdsSome) held
        · cases read
  · intro lists
    cases lists with
    | entries => rfl
    | nothing holdsNothing => simp [toEntries, holdsNothing]
    | items holdsSome held => simp [toEntries, holdsSome, held]

/-- The options that are listed, each made of an entry. -/
def Listing.Offers (given : Listing Choice) (options : List Choice) : Prop :=
  ∃ entries, given.Lists entries ∧ entries.mapM Choice.ofEntry = .ok options

/-- Options are read of a listing exactly if it offers them. -/
theorem Listing.toChoices_eq_ok_iff {given : Listing Choice} {options : List Choice} :
    given.toChoices = .ok options ↔ given.Offers options := by
  simp only [toChoices, Result.bind_eq_ok_iff, toEntries_eq_ok_iff, Offers]

/-- Options that are listed as such are offered as they are. -/
theorem Listing.offers_proper (options : List Choice) :
    (Listing.entries (options.map .proper)).Offers options := by
  have each : (options.map .proper).mapM Choice.ofEntry = .ok (options.map id) :=
    Result.mapM_map_eq_ok fun choice _ => rfl
  rw [List.map_id] at each
  exact ⟨_, .entries _, each⟩

namespace FieldContent

/-- Content has the attributes that are given in place of the parts of other content. Its options
are left aside. -/
structure Overlays (content base : FieldContent) (attributes : Attributes) : Prop where
  type : GivenOr Value.NamesType attributes.type? base.type content.type
  label : content.label = attributes.label?.getD base.label
  placeholder : content.placeholder = attributes.placeholder?.getD base.placeholder
  description : content.description = attributes.description?.getD base.description
  required : content.required = attributes.required?.getD base.required
  validationRules :
    GivenOr Listing.Lists attributes.validationRules? base.validationRules content.validationRules
  conditionalRules :
    GivenOr Listing.Lists attributes.conditionalRules? base.conditionalRules
      content.conditionalRules
  defaultValue : content.defaultValue = attributes.defaultValue?.getD base.defaultValue

/-- Content of a new field: the template of a type with attributes in place. If the final type
offers options, they are those that are given or else those of the template, or the default ones
where these are none. -/
structure IsNew (content : FieldContent) (base : FieldType) (attributes : Attributes) : Prop
    extends content.Overlays (template base) attributes where
  options : ∃ options, GivenOr Listing.Offers attributes.options? (template base).options options ∧
    content.options =
      if !content.type.isChoice then []
      else if options.isEmpty then defaultOptions
      else options

/-- Content that attributes are merged into. If its type offers options then, they are those that
are given or else those that it had, and there are some. -/
structure Merges (content before : FieldContent) (attributes : Attributes) : Prop
    extends content.Overlays before attributes where
  options : ∃ options, GivenOr Listing.Offers attributes.options? before.options options ∧
    (content.type.isChoice = true → options ≠ []) ∧
    content.options = if content.type.isChoice then options else []

/-- Content is made part by part. -/
theorem create_eq (type : Value) (attributes : Attributes) :
    create type attributes = (do
      let template := template (← FieldType.ofValue type)
      let finalType ← attributes.type?.elim (pure template.type) FieldType.ofValue
      let options ← attributes.options?.elim (pure template.options) Listing.toChoices
      let validationRules ←
        attributes.validationRules?.elim (pure template.validationRules) Listing.toEntries
      let conditionalRules ←
        attributes.conditionalRules?.elim (pure template.conditionalRules) Listing.toEntries
      return {
        type := finalType
        label := attributes.label?.getD template.label
        placeholder := attributes.placeholder?.getD template.placeholder
        description := attributes.description?.getD template.description
        required := attributes.required?.getD template.required
        options :=
          if !finalType.isChoice then []
          else if options.isEmpty then defaultOptions
          else options
        validationRules
        conditionalRules
        defaultValue := attributes.defaultValue?.getD template.defaultValue }) := by
  unfold create
  cases attributes.type? <;> cases attributes.options? <;> cases attributes.validationRules? <;>
    cases attributes.conditionalRules? <;> rfl

/-- Content is changed part by part, if options are left where they are needed. -/
theorem change_eq (content : FieldContent) (attributes : Attributes) :
    content.change attributes = (do
      let type ← attributes.type?.elim (pure content.type) FieldType.ofValue
      let options ← attributes.options?.elim (pure content.options) Listing.toChoices
      if type.isChoice && options.isEmpty then throw (.choiceWithoutOptions type)
      else
        let validationRules ←
          attributes.validationRules?.elim (pure content.validationRules) Listing.toEntries
        let conditionalRules ←
          attributes.conditionalRules?.elim (pure content.conditionalRules) Listing.toEntries
        return {
          type
          label := attributes.label?.getD content.label
          placeholder := attributes.placeholder?.getD content.placeholder
          description := attributes.description?.getD content.description
          required := attributes.required?.getD content.required
          options := if type.isChoice then options else []
          validationRules
          conditionalRules
          defaultValue := attributes.defaultValue?.getD content.defaultValue }) := by
  unfold change
  cases attributes.type? <;> cases attributes.options? <;> cases attributes.validationRules? <;>
    cases attributes.conditionalRules? <;> rfl

/-- Content is made for a new field exactly if it is new for a type that is named. -/
theorem create_eq_ok_iff {word : Value} {attributes : Attributes} {content : FieldContent} :
    create word attributes = .ok content ↔
      ∃ type, word.NamesType type ∧ content.IsNew type attributes := by
  simp only [create_eq, Result.bind_eq_ok_iff, FieldType.ofValue_eq_ok_iff,
    elim_eq_ok_iff fun _ _ => FieldType.ofValue_eq_ok_iff,
    elim_eq_ok_iff fun _ _ => Listing.toChoices_eq_ok_iff,
    elim_eq_ok_iff fun _ _ => Listing.toEntries_eq_ok_iff]
  constructor
  · rintro ⟨type, named, finalType, isFinal, options, offered, rules, rulesListed, conditions,
      conditionsListed, same⟩
    obtain rfl := Except.ok.inj same
    exact ⟨type, named, ⟨isFinal, rfl, rfl, rfl, rfl, rulesListed, conditionsListed, rfl⟩,
      ⟨options, offered, rfl⟩⟩
  · rintro ⟨type, named, new⟩
    obtain ⟨options, offered, areOptions⟩ := new.options
    refine ⟨type, named, _, new.type, options, offered, _, new.validationRules, _,
      new.conditionalRules, ?_⟩
    rw [Result.pure_eq_ok, ← areOptions, ← new.label, ← new.placeholder, ← new.description,
      ← new.required, ← new.defaultValue]

/-- Content is changed exactly if attributes are merged into it. -/
theorem change_eq_ok_iff {content changed : FieldContent} {attributes : Attributes} :
    content.change attributes = .ok changed ↔ changed.Merges content attributes := by
  simp only [change_eq, Result.bind_eq_ok_iff,
    elim_eq_ok_iff fun _ _ => FieldType.ofValue_eq_ok_iff,
    elim_eq_ok_iff fun _ _ => Listing.toChoices_eq_ok_iff]
  constructor
  · rintro ⟨type, isType, options, offered, rest⟩
    split at rest
    · cases rest
    · next enough =>
      simp only [Result.bind_eq_ok_iff,
        elim_eq_ok_iff fun _ _ => Listing.toEntries_eq_ok_iff] at rest
      obtain ⟨rules, rulesListed, conditions, conditionsListed, same⟩ := rest
      obtain rfl := Except.ok.inj same
      exact ⟨⟨isType, rfl, rfl, rfl, rfl, rulesListed, conditionsListed, rfl⟩,
        ⟨options, offered, by simpa using enough, rfl⟩⟩
  · intro merges
    obtain ⟨options, offered, enough, areOptions⟩ := merges.options
    refine ⟨_, merges.type, options, offered, ?_⟩
    rw [if_neg (by simpa using enough)]
    simp only [Result.bind_eq_ok_iff, elim_eq_ok_iff fun _ _ => Listing.toEntries_eq_ok_iff]
    refine ⟨_, merges.validationRules, _, merges.conditionalRules, ?_⟩
    rw [Result.pure_eq_ok, ← areOptions, ← merges.label, ← merges.placeholder,
      ← merges.description, ← merges.required, ← merges.defaultValue]

/-- Content of a new field has options exactly if its type offers some. -/
theorem IsNew.options_ne_nil_iff {content : FieldContent} {base : FieldType}
    {attributes : Attributes} (new : content.IsNew base attributes) :
    content.options ≠ [] ↔ content.type.isChoice = true := by
  obtain ⟨options, -, areOptions⟩ := new.options
  rw [areOptions]
  cases content.type.isChoice with
  | false => simp
  | true => cases options <;> simp [defaultOptions]

/-- Content that attributes were merged into has the options that its type needs. -/
theorem Merges.options_ne_nil {content before : FieldContent} {attributes : Attributes}
    (merges : content.Merges before attributes) :
    content.type.isChoice = true → content.options ≠ [] := by
  obtain ⟨options, -, enough, areOptions⟩ := merges.options
  intro isChoice
  rw [areOptions, if_pos isChoice]
  exact enough isChoice

end FieldContent

end FormEngine
