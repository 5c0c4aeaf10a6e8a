import FormEngine.Proofs.Validation.Composition

/-!
# Two ways to require an answer

A field can be marked as required, and it can have a rule that requires an answer. The mark is
looked at before all rules and the rule only when its turn comes, but empty answers pass every other
rule, so both reject the same answers. An answer that is there passes both, and what is said of it
is the same.
-/

namespace FormEngine

/-- The rule that requires an answer. Its parameter does not matter. -/
def ValidationRule.requirement (parameter message : Value) : ValidationRule :=
  { kind := .known .required, parameter, message }

/-- The field, marked as required or not. -/
def Field.marked (field : Field) (required : Bool) : Field :=
  { field with required := .bool required }

/-- A field rejects an answer if it has a message for it. -/
def Field.Rejects (field : Field) (answer : Value) : Prop :=
  ∃ message, field.validate answer = .ok (some message)

variable {type : FieldType} {label answer parameter message : Value}

/-- A requirement with its test, on a field of a type. -/
def CompiledRule.requirement (type : FieldType) (parameter message : Value) : CompiledRule :=
  ⟨.requirement parameter message, fun answer => .ok (!answer.isEmptyAnswer (some type))⟩

/-- A requirement can always be compiled. -/
theorem compileRules_requirement (rest : List (Entry ValidationRule)) :
    compileRules type (.proper (.requirement parameter message) :: rest) = do
      let compiled ← compileRules type rest
      return .requirement type parameter message :: compiled := rfl

/-- Wherever a requirement is put into a list of rules, it is compiled in its place and the list is
refused for the same reason. -/
theorem compileRules_insert (before after : List (Entry ValidationRule)) :
    compileRules type (before ++ .proper (.requirement parameter message) :: after) = do
      let first ← compileRules type before
      let second ← compileRules type after
      return first ++ .requirement type parameter message :: second := by
  rw [compileRules_append, compileRules_requirement]
  simp only [bind_assoc, pure_bind]

/-- An empty answer breaks a requirement. -/
theorem rulesVerdict_requirement_empty (empty : answer.isEmptyAnswer (some type) = true)
    (rest : List CompiledRule) :
    rulesVerdict label answer true (.requirement type parameter message :: rest) =
      do return some (← (ValidationRule.requirement parameter message).rejection label) := by
  simp [rulesVerdict, CompiledRule.requirement, ValidationRule.requirement, empty]

/-- An answer that is there meets a requirement. -/
theorem rulesVerdict_requirement_given (given : answer.isEmptyAnswer (some type) = false)
    (rest : List CompiledRule) :
    rulesVerdict label answer false (.requirement type parameter message :: rest) =
      rulesVerdict label answer false rest := by
  simp [rulesVerdict, CompiledRule.requirement, given]

/-- An empty answer is rejected by rules with a requirement among them, wherever it stands. -/
theorem exists_rejection_of_empty (legible : label.hasOverlong = false)
    (empty : answer.isEmptyAnswer (some type) = true)
    {before after : List CompiledRule}
    (tests : ∀ item ∈ before, ruleCheck type item.rule = .ok (some item.check)) :
    ∃ rejection, rulesVerdict label answer true
      (before ++ .requirement type parameter message :: after) = .ok (some rejection) := by
  obtain ⟨said, isSaid⟩ := exists_rejection legible (.requirement parameter message)
  rw [rulesVerdict_append, rulesVerdict_requirement_empty empty, isSaid]
  cases earlier : rulesVerdict label answer true before with
  | error fault => exact absurd earlier (rulesVerdict_empty_ne_error legible tests)
  | ok verdict =>
    cases verdict with
    | none => exact ⟨said, rfl⟩
    | some rejection => exact ⟨rejection, rfl⟩

section Field

variable {field : Field} {before after : List CompiledRule}

/-- An empty answer is rejected by a field that is marked as required. -/
theorem verdict_marked_empty (empty : answer.isEmptyAnswer (some field.type) = true)
    (rules : List CompiledRule) :
    (field.marked true).verdict rules answer =
      do return some (← labelled field.label "is required") := by
  simp [FieldContent.verdict, Field.marked, empty, Value.truthy]

/-- An empty answer is held against the rules by a field that is not marked. -/
theorem verdict_unmarked_empty (empty : answer.isEmptyAnswer (some field.type) = true)
    (rules : List CompiledRule) :
    (field.marked false).verdict rules answer = rulesVerdict field.label answer true rules := by
  simp [FieldContent.verdict, Field.marked, empty, Value.truthy]

/-- What is said of an answer that is there depends neither on the mark nor on a requirement. -/
theorem verdict_requirement_given (given : answer.isEmptyAnswer (some field.type) = false) :
    (field.marked false).verdict (before ++ .requirement field.type parameter message :: after)
        answer =
      (field.marked true).verdict (before ++ after) answer := by
  have sameByRules : rulesVerdict field.label answer false
        (before ++ .requirement field.type parameter message :: after) =
      rulesVerdict field.label answer false (before ++ after) := by
    rw [rulesVerdict_append, rulesVerdict_append, rulesVerdict_requirement_given given]
  simp [FieldContent.verdict, Field.marked, given, sameByRules]

end Field

/-- The field with a requirement among its rules, and the marked field with the others only, are
compiled alike: both are refused for one reason, or both have verdicts by the same other rules. -/
theorem Field.validate_alike (field : Field) (before after : List (Entry ValidationRule))
    (parameter message answer : Value) :
    let ruled := (field.marked false).withRules
      (before ++ .proper (.requirement parameter message) :: after)
    let flagged := (field.marked true).withRules (before ++ after)
    (∃ fault, ruled.validate answer = .error fault ∧ flagged.validate answer = .error fault) ∨
      ∃ first second, compileRules field.type before = .ok first ∧
        ruled.validate answer = (field.marked false).verdict
          (first ++ .requirement field.type parameter message :: second) answer ∧
        flagged.validate answer = (field.marked true).verdict (first ++ second) answer := by
  intro ruled flagged
  have inserted := @compileRules_insert field.type parameter message before after
  have plain := compileRules_append field.type before after
  cases first : compileRules field.type before with
  | error fault =>
    simp only [first, Result.error_bind] at inserted plain
    exact .inl ⟨fault, (field.marked false).validate_of_refused inserted answer,
      (field.marked true).validate_of_refused plain answer⟩
  | ok compiledBefore =>
    cases second : compileRules field.type after with
    | error fault =>
      simp only [first, second, Result.ok_bind, Result.error_bind] at inserted plain
      exact .inl ⟨fault, (field.marked false).validate_of_refused inserted answer,
        (field.marked true).validate_of_refused plain answer⟩
    | ok compiledAfter =>
      simp only [first, second, Result.ok_bind] at inserted plain
      exact .inr ⟨compiledBefore, compiledAfter, rfl,
        (field.marked false).validate_withRules inserted answer,
        (field.marked true).validate_withRules plain answer⟩

/-- A mark and a rule require the same. Wherever a requirement is put among the rules of a field, the
field that has it and is not marked as required rejects the answers that the field rejects which is
marked and has the other rules only, and no verdict is given in the same cases and for the same
reason, as long as the label has a text for messages to name. Of an answer that is there both say
the same. -/
theorem Field.rejects_requirement_iff (field : Field) (before after : List (Entry ValidationRule))
    (parameter message answer : Value) :
    let ruled := (field.marked false).withRules
      (before ++ .proper (.requirement parameter message) :: after)
    let flagged := (field.marked true).withRules (before ++ after)
    (field.label.hasOverlong = false →
      (ruled.Rejects answer ↔ flagged.Rejects answer) ∧
        ∀ fault, ruled.validate answer = .error fault ↔ flagged.validate answer = .error fault) ∧
      (answer.isEmptyAnswer (some field.type) = false →
        ruled.validate answer = flagged.validate answer) := by
  intro ruled flagged
  rcases field.validate_alike before after parameter message answer with
    ⟨fault, ruledFails, flaggedFails⟩ | ⟨first, second, isCompiled, ruledSays, flaggedSays⟩
  · simp [Rejects, ruled, flagged, ruledFails, flaggedFails]
  · cases empty : answer.isEmptyAnswer (some field.type) with
    | false =>
      have same : ruled.validate answer = flagged.validate answer := by
        rw [ruledSays, flaggedSays, verdict_requirement_given empty]
      simp [Rejects, same]
    | true =>
      have tests : ∀ item ∈ first, ruleCheck field.type item.rule = .ok (some item.check) :=
        fun item member => (mem_entries_of_compileRules isCompiled item member).2
      refine ⟨fun legible => ?_, nofun⟩
      obtain ⟨rejection, isRejected⟩ := exists_rejection_of_empty legible empty tests
      rw [verdict_unmarked_empty empty, isRejected] at ruledSays
      rw [verdict_marked_empty empty, labelled_eq_ok legible] at flaggedSays
      simp [Rejects, ruled, flagged, ruledSays, flaggedSays]

/-- An address at which somebody can be reached. -/
def contactField : Field :=
  { type := .text, label := .str "Contact", id := "contact" }

/-- Blanks are rejected whether the contact is marked as required or has a rule that says so behind
another rule, and of what is no address both say the same. -/
theorem Field.rejects_requirement_iff_contactField :
    let format : Entry ValidationRule :=
      .proper { kind := .known .emailFormat, message := .str "Bad email" }
    let ruled := (contactField.marked false).withRules
      ([format] ++ .proper (.requirement .null (.str "How can we reach you?")) :: [])
    let flagged := (contactField.marked true).withRules ([format] ++ [])
    flagged.Rejects (.str " \t") ∧ ruled.Rejects (.str " \t") ∧
      (Value.str "a@b").isEmptyAnswer (some contactField.type) = false ∧
      ruled.validate (.str "a@b") = flagged.validate (.str "a@b") ∧
      flagged.validate (.str "a@b") = .ok (some (.str "Bad email")) := by
  intro format ruled flagged
  have blank : flagged.Rejects (.str " \t") := ⟨_, rfl⟩
  have given : (Value.str "a@b").isEmptyAnswer (some contactField.type) = false := rfl
  refine ⟨blank, ?_, given, ?_, rfl⟩
  · exact ((contactField.rejects_requirement_iff [format] [] _ _ _).1 rfl).1.mpr blank
  · exact (contactField.rejects_requirement_iff [format] [] _ _ _).2 given

end FormEngine
