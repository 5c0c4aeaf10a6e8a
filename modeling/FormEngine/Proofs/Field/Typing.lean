import FormEngine.Proofs.Document.WellFormed
import FormEngine.Proofs.Field.Content

/-!
# Attributes of the types they should have

Labels and messages should be texts, hints texts or nothing, parameters of rules single values, and
default values such as documents have. Nobody checks any of this when a field is made or changed,
but content that is made or changed by attributes of these types has parts of these types.
-/

namespace FormEngine

/-- A hint: a text, or nothing. -/
def Value.IsHint (value : Value) : Prop :=
  value = .null ∨ value.IsText

/-- A default value as documents give it: a tree, or a date. -/
def Value.IsDefault (value : Value) : Prop :=
  value.IsJson ∨ ∃ day, value = .date day

/-- A word of a vocabulary, or a text that is none of its words. -/
def Recognised.IsWord {κ : Type} (ofWire? : String → Option κ) : Recognised κ → Prop
  | .known _ => True
  | .unknown raw => ∃ text, raw = .str text ∧ ofWire? text = none

/-- A validation rule with a single value as its parameter and a text as its message. If it asks for
a pattern, the pattern can be read or is none. -/
structure ValidationRule.IsTyped (rule : ValidationRule) : Prop where
  kind : rule.kind.IsWord RuleKind.ofWire?
  parameter : rule.parameter.IsScalar
  message : rule.message.IsText
  pattern : rule.PatternReads

/-- A conditional rule with a text as its trigger and a single value to compare with. -/
structure ConditionalRule.IsTyped (rule : ConditionalRule) : Prop where
  trigger : rule.trigger.IsText
  operator : rule.operator.IsWord Operator.ofWire?
  comparison : rule.comparison.IsScalar

/-- An entry that is an item of a certain kind, and no stray value. -/
def Entry.IsProper {α : Type} (holds : α → Prop) : Entry α → Prop
  | .proper item => holds item
  | .stray _ => False

/-- Content whose parts have the types that they should have. -/
structure FieldContent.IsTyped (content : FieldContent) : Prop where
  label : content.label.IsText
  placeholder : content.placeholder.IsHint
  description : content.description.IsHint
  required : ∃ flag, content.required = .bool flag
  validationRules : ∀ entry ∈ content.validationRules, entry.IsProper ValidationRule.IsTyped
  conditionalRules : ∀ entry ∈ content.conditionalRules, entry.IsProper ConditionalRule.IsTyped
  defaultValue : content.defaultValue.IsDefault

/-- A list of items of a certain kind. -/
def Listing.IsTyped {α : Type} (holds : α → Prop) : Listing α → Prop
  | .entries items => ∀ entry ∈ items, entry.IsProper holds
  | .value _ => False

/-- An attribute of the type that it should have. Types are checked, options become texts, and ids,
orders and unknown attributes do not reach the content. -/
def Attribute.IsTyped : Attribute → Prop
  | .label value => value.IsText
  | .placeholder value | .description value => value.IsHint
  | .required value => ∃ flag, value = .bool flag
  | .validationRules given => given.IsTyped ValidationRule.IsTyped
  | .conditionalRules given => given.IsTyped ConditionalRule.IsTyped
  | .defaultValue value => value.IsDefault
  | .type _ | .options _ | .id _ | .order _ | .unknown _ => True

/-- Entries that are all proper are those of a list of items. -/
theorem Entry.exists_of_isProper {α : Type} {holds : α → Prop} {entries : List (Entry α)}
    (proper : ∀ entry ∈ entries, entry.IsProper holds) :
    ∃ items : List α, entries = items.map .proper ∧ ∀ item ∈ items, holds item := by
  induction entries with
  | nil => exact ⟨[], rfl, by simp⟩
  | cons entry rest inductionHypothesis =>
    obtain ⟨items, areItems, each⟩ :=
      inductionHypothesis fun other member => proper other (.tail _ member)
    cases entry with
    | stray value => exact (proper (.stray value) (.head _)).elim
    | proper item =>
      exact ⟨item :: items, by rw [areItems, List.map_cons],
        List.forall_mem_cons.mpr ⟨proper (.proper item) (.head _), each⟩⟩

namespace Attributes

variable {attributes : Attributes} {α β : Type} {ask : Attribute → Option α}

/-- The last answer to a question is the answer of some attribute. -/
theorem exists_of_last? {value : α} (given : attributes.last? ask = some value) :
    ∃ part ∈ attributes, ask part = some value := by
  obtain ⟨part, member, answered⟩ := List.exists_of_findSome?_eq_some given
  exact ⟨part, List.mem_reverse.mp member, answered⟩

/-- What all answers are, and what stands where none is given, the last answer or else that is. -/
theorem getD_last? (holds : α → Prop) {otherwise : α} (given : holds otherwise)
    (answers : ∀ part ∈ attributes, ∀ value, ask part = some value → holds value) :
    holds ((attributes.last? ask).getD otherwise) := by
  cases last : attributes.last? ask with
  | none => exact given
  | some value =>
    obtain ⟨part, member, answered⟩ := exists_of_last? last
    exact answers part member value answered

/-- Of a typed list, or of proper entries where none is given, all entries are proper. -/
theorem isProper_of_last? {holds : β → Prop} {ask : Attribute → Option (Listing β)}
    {otherwise entries : List (Entry β)} (given : ∀ entry ∈ otherwise, entry.IsProper holds)
    (answers : ∀ part ∈ attributes, ∀ listing, ask part = some listing →
      listing.IsTyped holds)
    (isGiven : GivenOr Listing.Lists (attributes.last? ask) otherwise entries) :
    ∀ entry ∈ entries, entry.IsProper holds := by
  cases last : attributes.last? ask with
  | none =>
    rw [last] at isGiven
    obtain rfl : entries = otherwise := isGiven
    exact given
  | some listing =>
    obtain ⟨part, member, answered⟩ := exists_of_last? last
    have typed := answers part member listing answered
    rw [last] at isGiven
    cases (isGiven : listing.Lists entries) with
    | entries => exact typed
    | nothing | items => exact typed.elim

end Attributes

namespace FieldContent

/-- A new field has parts of the right types, whatever its type. -/
theorem isTyped_template (type : FieldType) : (template type).IsTyped where
  label := ⟨_, rfl⟩
  placeholder := .inr ⟨_, rfl⟩
  description := .inr ⟨"", rfl⟩
  required := ⟨false, rfl⟩
  validationRules := by
    intro entry member
    simp only [template] at member
    split at member
    · rw [List.mem_singleton.mp member]
      exact ⟨trivial, trivial, ⟨_, rfl⟩, by simp [ValidationRule.PatternReads, emailRule]⟩
    · cases member
  conditionalRules := by simp [template]
  defaultValue := by
    left
    simp only [template]
    split
    · exact .int 0
    · exact .null

/-- Content that has attributes in place of the parts of typed content is typed if the attributes
are. -/
theorem IsTyped.overlaid {content base : FieldContent} (typed : base.IsTyped)
    {attributes : Attributes} (given : ∀ part ∈ attributes, part.IsTyped)
    (overlays : content.Overlays base attributes) : content.IsTyped where
  -- Of all attributes, the one for a part alone answers the question for it.
  label := overlays.label ▸
    Attributes.getD_last? Value.IsText typed.label fun part member _ answered => by
      cases part <;> cases answered
      exact given _ member
  placeholder := overlays.placeholder ▸
    Attributes.getD_last? Value.IsHint typed.placeholder fun part member _ answered => by
      cases part <;> cases answered
      exact given _ member
  description := overlays.description ▸
    Attributes.getD_last? Value.IsHint typed.description fun part member _ answered => by
      cases part <;> cases answered
      exact given _ member
  required := overlays.required ▸
    Attributes.getD_last? (∃ flag, · = Value.bool flag) typed.required
      fun part member _ answered => by
        cases part <;> cases answered
        exact given _ member
  validationRules := Attributes.isProper_of_last? typed.validationRules
    (fun part member _ answered => by
      cases part <;> cases answered
      exact given _ member) overlays.validationRules
  conditionalRules := Attributes.isProper_of_last? typed.conditionalRules
    (fun part member _ answered => by
      cases part <;> cases answered
      exact given _ member) overlays.conditionalRules
  defaultValue := overlays.defaultValue ▸
    Attributes.getD_last? Value.IsDefault typed.defaultValue fun part member _ answered => by
      cases part <;> cases answered
      exact given _ member

/-- Content of a new field that is made of typed attributes is typed. -/
theorem IsNew.isTyped {content : FieldContent} {base : FieldType} {attributes : Attributes}
    (new : content.IsNew base attributes) (given : ∀ part ∈ attributes, part.IsTyped) :
    content.IsTyped :=
  (isTyped_template base).overlaid given new.toOverlays

end FieldContent

end FormEngine
