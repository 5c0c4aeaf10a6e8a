import FormEngine.Document.Reading

/-!
# The checks of a document as a whole

Once all fields are read, they are checked in document order. The checks pass exactly when no two
fields share an id, every field that offers options has one, and every pattern can be read or is no
pattern at all; patterns of the latter kind are what the importer is warned of.
-/

namespace FormEngine

/-- A rule that asks for no pattern that is refused outright. -/
def ValidationRule.PatternReads (rule : ValidationRule) : Prop :=
  rule.kind = .known .pattern → ∀ fault, patternStatus rule.parameter ≠ .refused fault

/-- Whether a pattern can be read or is none. -/
def PatternStatus.reads : PatternStatus → Bool
  | .refused _ => false
  | _ => true

instance (rule : ValidationRule) : Decidable rule.PatternReads :=
  decidable_of_iff (rule.kind = .known .pattern → (patternStatus rule.parameter).reads = true) <| by
    unfold ValidationRule.PatternReads
    cases patternStatus rule.parameter <;> simp [PatternStatus.reads]

/-- Patterns pass exactly when none is refused. -/
theorem result_checkPatterns_eq_ok_iff {fieldId : String} {rules : List (Entry ValidationRule)} :
    (checkPatterns fieldId rules).result = .ok () ↔
      ∀ rule, .proper rule ∈ rules → rule.PatternReads := by
  induction rules with
  | nil => simp [checkPatterns]
  | cons entry rest inductionHypothesis =>
    cases entry with
    | stray value => simpa [checkPatterns] using inductionHypothesis
    | proper rule =>
      have split : (∀ other, .proper other ∈ Entry.proper rule :: rest → other.PatternReads) ↔
          rule.PatternReads ∧ ∀ other, .proper other ∈ rest → other.PatternReads := by
        simp [forall_eq_or_imp]
      rw [split, ← inductionHypothesis]
      simp only [checkPatterns]
      split
      case h_1 kind invalid =>
        have reads : rule.PatternReads := fun _ fault refused => by
          rw [invalid] at refused
          cases refused
        simp [Findings.after, reads]
      case h_2 fault kind refused =>
        have notRead : ¬rule.PatternReads := fun reads => reads kind fault refused
        simp [notRead]
      case h_3 notInvalid notRefused =>
        have reads : rule.PatternReads := fun kind fault refused => notRefused fault kind refused
        simp [reads]

/-- What a field must have for the checks to pass, whatever the other fields are. -/
structure PlacedField.Passes (field : PlacedField) : Prop where
  options : field.type.isChoice = true → field.options ≠ []
  patterns : ∀ rule, .proper rule ∈ field.validationRules → rule.PatternReads

/-- The warnings of the patterns of a field. -/
def PlacedField.warnings (field : PlacedField) : List PatternWarning :=
  (checkPatterns field.id field.validationRules).warnings

/-- What the checks find from a field on: its id is taken, it lacks options, a pattern of it is
refused, or it passes and the checks go on behind it. -/
theorem checkFields_cons (seen : List String) (field : PlacedField) (rest : List PlacedField) :
    (field.id ∈ seen ∧ checkFields seen (field :: rest) =
      { result := .error (.importedDuplicateId field.id) }) ∨
    (field.id ∉ seen ∧ field.type.isChoice = true ∧ field.options = [] ∧
      checkFields seen (field :: rest) =
        { result := .error (.importedChoiceWithoutOptions field.id field.type) }) ∨
    (field.id ∉ seen ∧ (field.type.isChoice = true → field.options ≠ []) ∧
      (∃ fault, (checkPatterns field.id field.validationRules).result = .error fault) ∧
      checkFields seen (field :: rest) = checkPatterns field.id field.validationRules) ∨
    (field.id ∉ seen ∧ field.Passes ∧
      checkFields seen (field :: rest) =
        (checkFields (field.id :: seen) rest).after field.warnings) := by
  simp only [checkFields]
  split
  case isTrue repeated => exact .inl ⟨by simpa using repeated, rfl⟩
  case isFalse new =>
    have notSeen : field.id ∉ seen := by simpa using new
    split
    case isTrue bare =>
      simp only [Bool.and_eq_true, List.isEmpty_iff] at bare
      exact .inr (.inl ⟨notSeen, bare.1, bare.2, rfl⟩)
    case isFalse offers =>
      have options : field.type.isChoice = true → field.options ≠ [] := by
        simpa [Bool.and_eq_true, List.isEmpty_iff] using offers
      split
      case h_1 fault patterns => exact .inr (.inr (.inl ⟨notSeen, options, ⟨fault, patterns⟩, rfl⟩))
      case h_2 patterns =>
        have reads := result_checkPatterns_eq_ok_iff.mp patterns
        exact .inr (.inr (.inr ⟨notSeen, ⟨options, reads⟩, rfl⟩))

/-- The checks pass from a field on exactly if the field passes and they pass behind it. -/
theorem result_checkFields_cons_eq_ok_iff {seen : List String} {field : PlacedField}
    {rest : List PlacedField} :
    (checkFields seen (field :: rest)).result = .ok () ↔
      field.id ∉ seen ∧ field.Passes ∧ (checkFields (field.id :: seen) rest).result = .ok () := by
  rcases checkFields_cons seen field rest with ⟨isSeen, found⟩ | ⟨-, isChoice, bare, found⟩ |
    ⟨-, -, ⟨fault, refused⟩, found⟩ | ⟨notSeen, passes, found⟩
  · simp [found, isSeen]
  · have fails : ¬field.Passes := fun passes => passes.options isChoice bare
    simp [found, fails]
  · have fails : ¬field.Passes := by
      intro passes
      rw [result_checkPatterns_eq_ok_iff.mpr passes.patterns] at refused
      cases refused
    simp [found, refused, fails]
  · simp [found, Findings.after, notSeen, passes]

/-- The checks pass exactly when ids are distinct and every field has what it must have. -/
theorem result_checkFields_eq_ok_iff {seen : List String} {fields : List PlacedField} :
    (checkFields seen fields).result = .ok () ↔
      (fields.map (·.id)).Nodup ∧ (∀ field ∈ fields, field.id ∉ seen) ∧
        ∀ field ∈ fields, field.Passes := by
  induction fields generalizing seen with
  | nil => simp [checkFields]
  | cons field rest inductionHypothesis =>
    simp only [result_checkFields_cons_eq_ok_iff, inductionHypothesis, List.map_cons,
      List.nodup_cons, List.mem_cons, not_or, forall_eq_or_imp, List.mem_map, not_exists, not_and]
    constructor
    · rintro ⟨notSeen, passes, distinct, unseen, restPass⟩
      exact ⟨⟨fun other member => (unseen other member).1, distinct⟩,
        ⟨notSeen, fun other member => (unseen other member).2⟩, passes, restPass⟩
    · rintro ⟨⟨fresh, distinct⟩, ⟨notSeen, unseen⟩, passes, restPass⟩
      exact ⟨notSeen, passes, distinct, fun other member => ⟨fresh other member, unseen other member⟩,
        restPass⟩

/-- Where the checks pass, the warnings are those of the fields, one field after the other. -/
theorem warnings_checkFields {seen : List String} {fields : List PlacedField}
    (passed : (checkFields seen fields).result = .ok ()) :
    (checkFields seen fields).warnings = fields.flatMap (·.warnings) := by
  induction fields generalizing seen with
  | nil => rfl
  | cons field rest inductionHypothesis =>
    rcases checkFields_cons seen field rest with ⟨-, found⟩ | ⟨-, -, -, found⟩ |
      ⟨-, -, ⟨fault, refused⟩, found⟩ | ⟨-, -, found⟩
    · rw [found] at passed
      cases passed
    · rw [found] at passed
      cases passed
    · rw [found, refused] at passed
      cases passed
    · rw [found] at passed ⊢
      simp [Findings.after, inductionHypothesis passed]

end FormEngine
