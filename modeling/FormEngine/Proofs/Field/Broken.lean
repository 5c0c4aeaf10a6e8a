import FormEngine.Proofs.Result
import FormEngine.Visibility

/-!
# Rules that are broken

A validation rule is broken if its kind is unknown or if it asks for a pattern and its parameter is
none; a condition is broken if it dangles, that is if its trigger is the id of no field, or if its
operator is unknown. Validation leaves broken rules out, and a broken condition is met as far as
its trigger can be looked up at all.
-/

namespace FormEngine

namespace Recognised

variable {κ : Type}

/-- The value that stands in the place of a word. -/
def unknown? : Recognised κ → Option Value
  | .known _ => none
  | .unknown raw => some raw

@[simp] theorem unknown?_known (word : κ) : (Recognised.known word).unknown? = none := rfl

@[simp] theorem unknown?_unknown (raw : Value) :
    (Recognised.unknown raw : Recognised κ).unknown? = some raw := rfl

end Recognised

/-- Whether a parameter turned out to be no pattern. -/
def PatternStatus.isInvalid : PatternStatus → Bool
  | .invalid => true
  | _ => false

/-- The item of an entry; a stray value has none. -/
def Entry.proper? {α : Type} : Entry α → Option α
  | .proper item => some item
  | .stray _ => none

@[simp] theorem Entry.proper?_proper {α : Type} (item : α) :
    (Entry.proper item).proper? = some item := rfl

@[simp] theorem Entry.proper?_stray {α : Type} (value : Value) :
    (Entry.stray value : Entry α).proper? = none := rfl

namespace ValidationRule

/-- Whether a rule asks for a pattern and its parameter is none. -/
def hasInvalidPattern (rule : ValidationRule) : Bool :=
  rule.kind = .known .pattern && (patternStatus rule.parameter).isInvalid

def isBroken (rule : ValidationRule) : Bool :=
  rule.kind.unknown?.isSome || rule.hasInvalidPattern

theorem hasInvalidPattern_iff {rule : ValidationRule} :
    rule.hasInvalidPattern = true ↔
      rule.kind = .known .pattern ∧ patternStatus rule.parameter = .invalid := by
  unfold hasInvalidPattern PatternStatus.isInvalid
  cases patternStatus rule.parameter <;> simp

/-- A broken rule can not be applied. -/
theorem ruleCheck_of_isBroken {rule : ValidationRule} (isBroken : rule.isBroken = true)
    (type : FieldType) : ruleCheck type rule = .ok none := by
  rcases Bool.or_eq_true_iff.mp isBroken with isUnknown | hasInvalid
  · cases kind : rule.kind with
    | known word => simp [kind] at isUnknown
    | unknown raw => simp [ruleCheck, kind]
  · obtain ⟨kind, invalid⟩ := hasInvalidPattern_iff.mp hasInvalid
    simp [ruleCheck, kind, patternCheck, invalid]

end ValidationRule

/-- An id refers to nothing if no field has it. -/
theorem referredField?_eq_none_iff {fields : List Field} {id : String} :
    referredField? fields id = none ↔ id ∉ fields.map (·.id) := by
  simp [referredField?]

namespace ConditionalRule

/-- Whether the trigger of a rule is none of some ids. -/
def dangles (ids : List String) (rule : ConditionalRule) : Bool :=
  !rule.trigger.text?.any ids.contains

def isBroken (ids : List String) (rule : ConditionalRule) : Bool :=
  rule.dangles ids || rule.operator.unknown?.isSome

/-- Whether a rule is broken and its trigger can be looked up. -/
def isInert (ids : List String) (rule : ConditionalRule) : Bool :=
  rule.trigger.unkeyable?.isNone && rule.isBroken ids

/-- A rule dangles exactly if its trigger is no text among the ids. -/
theorem dangles_iff {ids : List String} {rule : ConditionalRule} :
    rule.dangles ids = true ↔ ∀ text ∈ ids, rule.trigger ≠ .str text := by
  cases isTrigger : rule.trigger with
  | str text =>
    have named : (∀ other ∈ ids, Value.str text ≠ .str other) ↔ text ∉ ids := by
      simp [← List.forall_mem_ne]
    rw [named]
    simp [dangles, isTrigger, Value.text?]
  | _ => simp [dangles, isTrigger, Value.text?]

/-- A rule on one of the ids does not dangle. -/
theorem dangles_eq_false {ids : List String} {rule : ConditionalRule} {text : String}
    (isText : rule.trigger = .str text) (known : text ∈ ids) : rule.dangles ids = false :=
  Bool.eq_false_iff.mpr fun dangles => dangles_iff.mp dangles text known isText

/-- The trigger of a dangling rule is not found. -/
theorem bind_referredField?_of_dangles {fields : List Field} {rule : ConditionalRule}
    (dangles : rule.dangles (fields.map (·.id)) = true) :
    rule.trigger.text?.bind (referredField? fields) = none := by
  cases isText : rule.trigger.text? with
  | none => rfl
  | some id =>
    have absent : id ∉ fields.map (·.id) := by simpa [ConditionalRule.dangles, isText] using dangles
    exact referredField?_eq_none_iff.mpr absent

/-- A broken rule whose trigger can be looked up is met by all answers. -/
theorem isMet_of_isInert {fields : List Field} {rule : ConditionalRule}
    (isInert : rule.isInert (fields.map (·.id)) = true) (answers : Answers) :
    rule.isMet fields answers = .ok true := by
  obtain ⟨keyable, isBroken⟩ := Bool.and_eq_true_iff.mp isInert
  have lookedUp : rule.triggerField? fields =
      .ok (rule.trigger.text?.bind (referredField? fields)) := by
    simp [triggerField?, Option.isNone_iff_eq_none.mp keyable]
  rw [isMet, lookedUp, Result.ok_bind]
  rcases Bool.or_eq_true_iff.mp isBroken with dangles | isUnknown
  · rw [bind_referredField?_of_dangles dangles, Result.pure_eq_ok]
  · split
    · rfl
    · cases operator : rule.operator with
      | known word => simp [operator] at isUnknown
      | unknown raw => simp [holds, operator]

end ConditionalRule

namespace Field

/-- The validation rules of a field, without the stray values among them. -/
def properRules (field : Field) : List ValidationRule :=
  field.validationRules.filterMap Entry.proper?

/-- The conditions of a field, without the stray values among them. -/
def properConditions (field : Field) : List ConditionalRule :=
  field.conditionalRules.filterMap Entry.proper?

/-- A field without the rules and conditions of certain kinds. -/
def without (rules : ValidationRule → Bool) (conditions : ConditionalRule → Bool)
    (field : Field) : Field :=
  { field with
    validationRules := field.validationRules.filter (!·.proper?.any rules)
    conditionalRules := field.conditionalRules.filter (!·.proper?.any conditions) }

/-- The parameters of its rules that should be patterns and are none, in order. -/
def invalidParameters (field : Field) : List Value :=
  (field.properRules.filter (·.hasInvalidPattern)).map (·.parameter)

end Field

end FormEngine
