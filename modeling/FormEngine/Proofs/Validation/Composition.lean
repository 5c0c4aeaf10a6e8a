import FormEngine.Proofs.Validation

/-!
# The first failure counts

A field holds what it asks for against an answer in order, and the first failure is its verdict. A
list of rules that is made of two therefore says what the first of them says, and where that says
nothing it says what the second does. What is said without any rules is that the answer is missing
or that it does not fit the type.
-/

namespace FormEngine

/-- A first verdict, or where that says nothing a second one. -/
def firstRejection (first second : Except Fault Verdict) : Except Fault Verdict := do
  match ← first with
  | some message => return some message
  | none => second

/-- A failure ends the search. -/
@[simp] theorem firstRejection_error (fault : Fault) (second : Except Fault Verdict) :
    firstRejection (.error fault) second = .error fault := rfl

/-- Of two verdicts that are given the first counts that is a message. -/
theorem firstRejection_ok (first second : Verdict) :
    firstRejection (.ok first) (.ok second) = .ok (first.or second) := by
  cases first <;> rfl

/-- A verdict that is a message, if one can be made, leaves nothing to a second one. -/
theorem firstRejection_message (made : Except Fault Value) (second : Except Fault Verdict) :
    firstRejection (do return some (← made)) second = do return some (← made) := by
  cases made <;> rfl

variable {label answer : Value}

/-- Two lists of rules in a row are compiled one after the other. -/
theorem compileRules_append (type : FieldType) (rules others : List (Entry ValidationRule)) :
    compileRules type (rules ++ others) = do
      let first ← compileRules type rules
      let second ← compileRules type others
      return first ++ second := by
  induction rules with
  | nil => simp only [List.nil_append, compileRules, Result.ok_bind, bind_pure]
  | cons entry rest inductionHypothesis =>
    simp only [List.cons_append, compileRules, inductionHypothesis, bind_assoc, pure_bind]
    refine bind_congr fun rule => bind_congr fun check => bind_congr fun first => ?_
    refine bind_congr fun second => ?_
    cases check <;> rfl

/-- Two lists of rules in a row give the verdict of the first, or else that of the second. -/
theorem rulesVerdict_append {empty : Bool} (rules others : List CompiledRule) :
    rulesVerdict label answer empty (rules ++ others) =
      firstRejection (rulesVerdict label answer empty rules)
        (rulesVerdict label answer empty others) := by
  induction rules with
  | nil => rfl
  | cons compiled rest inductionHypothesis =>
    rw [List.cons_append, rulesVerdict, rulesVerdict, inductionHypothesis]
    by_cases skipped : (empty && compiled.rule.kind != .known .required) = true
    · rw [if_pos skipped, if_pos skipped]
    · rw [if_neg skipped, if_neg skipped]
      cases checked : compiled.check answer with
      | error fault => rfl
      | ok passes =>
        cases passes with
        | true => rfl
        | false => exact (firstRejection_message _ _).symm

/-- What is asked before the rules is asked once. -/
theorem verdict_append (content : FieldContent) (rules others : List CompiledRule)
    (answer : Value) :
    content.verdict (rules ++ others) answer =
      firstRejection (content.verdict rules answer) (content.verdict others answer) := by
  simp only [FieldContent.verdict, rulesVerdict_append]
  generalize answer.isEmptyAnswer (some content.type) = empty
  generalize typeVerdict content.type content.label answer = typed
  by_cases missing : (empty && content.required.truthy) = true
  · simp only [if_pos missing]
    exact (firstRejection_message _ _).symm
  · simp only [if_neg missing]
    cases empty with
    | true => rfl
    | false =>
      cases typed with
      | error fault => rfl
      | ok mismatch => cases mismatch <;> rfl

/-- The field with other rules. -/
def Field.withRules (field : Field) (rules : List (Entry ValidationRule)) : Field :=
  { field with validationRules := rules }

/-- Rules that are compiled give their verdict. -/
theorem Field.validate_withRules (field : Field) {rules : List (Entry ValidationRule)}
    {compiled : List CompiledRule} (isCompiled : compileRules field.type rules = .ok compiled)
    (answer : Value) : (field.withRules rules).validate answer = field.verdict compiled answer := by
  have validator : (field.withRules rules).validator = .ok (field.verdict compiled) := by
    simp only [FieldContent.validator, withRules, isCompiled, Result.ok_bind]
    rfl
  rw [Field.validate, validator, Result.ok_bind]

/-- Rules that are refused leave the field without a verdict. -/
theorem Field.validate_of_refused (field : Field) {rules : List (Entry ValidationRule)}
    {fault : Fault} (refused : compileRules field.type rules = .error fault) (answer : Value) :
    (field.withRules rules).validate answer = .error fault := by
  simp [validate, FieldContent.validator, withRules, refused]

/-- A field whose rules give a verdict has them compiled. -/
theorem Field.exists_compiled {field : Field} {rules : List (Entry ValidationRule)}
    {verdict : Verdict} (validated : (field.withRules rules).validate answer = .ok verdict) :
    ∃ compiled, compileRules field.type rules = .ok compiled := by
  cases isCompiled : compileRules field.type rules with
  | error fault =>
    rw [field.validate_of_refused isCompiled] at validated
    cases validated
  | ok compiled => exact ⟨compiled, rfl⟩

/-- A field with two lists of rules, the second of which can be compiled, says of any answer what it
says with the first, and where that is nothing what it says with the second. -/
theorem Field.validate_append {field : Field} {others : List (Entry ValidationRule)}
    {compiled : List CompiledRule} (isCompiled : compileRules field.type others = .ok compiled)
    (rules : List (Entry ValidationRule)) (answer : Value) :
    (field.withRules (rules ++ others)).validate answer =
      firstRejection ((field.withRules rules).validate answer)
        ((field.withRules others).validate answer) := by
  cases first : compileRules field.type rules with
  | error fault =>
    have both : compileRules field.type (rules ++ others) = .error fault := by
      simp [compileRules_append, first]
    rw [field.validate_of_refused both, field.validate_of_refused first, firstRejection_error]
  | ok before =>
    have both : compileRules field.type (rules ++ others) = .ok (before ++ compiled) := by
      simp [compileRules_append, first, isCompiled]
    rw [field.validate_withRules both, field.validate_withRules first,
      field.validate_withRules isCompiled, verdict_append]

/-- What a type asks of an answer that is there, as messages word it. -/
def FieldType.demand? : FieldType → Option String
  | .number => some "must be a number"
  | .date => some "must be a valid date"
  | .email => some "must be a valid email address"
  | .phone => some "must be a valid phone number"
  | .url => some "must be a valid URL"
  | _ => none

/-- An answer that can be read as a type asks. -/
def FieldType.Reads (type : FieldType) (answer : Value) : Prop :=
  match type with
  | .number => ∃ number, answer.number? = .ok (some number)
  | .date => ∃ day, answer.date? = some day
  | .email => ∃ text, answer.spell = .ok text ∧ isEmailAddress text = true
  | .phone => ∃ text, answer.spell = .ok text ∧ isPhoneNumber text = true
  | .url => ∃ text, answer.spell = .ok text ∧
      WebAddress.isValid (Text.trimList text.toList) = .ok true
  | _ => True

/-- A verdict is the message that a label and an ending make. -/
def Verdict.Names (verdict : Verdict) (label : Value) (ending : String) : Prop :=
  ∃ message, labelled label ending = .ok message ∧ verdict = some message

/-- A verdict that is a message is the one that was made. -/
theorem names_of_eq_ok {verdict : Verdict} {ending : String}
    (given : (do return some (← labelled label ending) : Except Fault Verdict) = .ok verdict) :
    verdict.Names label ending := by
  obtain ⟨message, made, same⟩ := Result.bind_eq_ok_iff.mp given
  exact ⟨message, made, (Except.ok.inj same).symm⟩

/-- Where there is no message, no label is named. -/
theorem not_names_none (label : Value) (ending : String) : ¬Verdict.Names none label ending := by
  rintro ⟨_, -, ⟨⟩⟩

/-- Messages with one label are told apart by their endings. -/
theorem Verdict.Names.ending_eq {verdict : Verdict} {ending other : String}
    (names : verdict.Names label ending) (namesOther : verdict.Names label other) :
    ending = other := by
  obtain ⟨message, made, rfl⟩ := names
  obtain ⟨_, madeOther, ⟨⟩⟩ := namesOther
  obtain ⟨text, spelled, same⟩ := Result.bind_eq_ok_iff.mp made
  obtain ⟨_, spelledToo, sameOther⟩ := Result.bind_eq_ok_iff.mp madeOther
  rw [spelled] at spelledToo
  cases spelledToo
  rw [← Except.ok.inj same] at sameOther
  simpa using (Value.str.inj (Except.ok.inj sameOther)).symm

/-- No type words what it asks for as a requirement does. -/
theorem FieldType.demand?_ne_required (type : FieldType) : type.demand? ≠ some "is required" := by
  cases type <;> decide

/-- An answer that is held against its type passes if it can be read as the type asks. Otherwise the
message says what the type asks for. -/
theorem typeVerdict_cases {type : FieldType} {verdict : Verdict}
    (typed : typeVerdict type label answer = .ok verdict) :
    verdict = none ∧ type.Reads answer ∨
      ¬type.Reads answer ∧ ∃ ending, type.demand? = some ending ∧ verdict.Names label ending := by
  -- What the test of the answer comes to decides.
  have ofTest {type : FieldType} {passes : Bool} {ending : String}
      (reads : type.Reads answer ↔ passes = true) (demands : type.demand? = some ending)
      (given : testVerdict label ending passes = .ok verdict) :
      verdict = none ∧ type.Reads answer ∨
        ¬type.Reads answer ∧ ∃ ending, type.demand? = some ending ∧
          verdict.Names label ending := by
    cases passes with
    | true => exact .inl ⟨(Except.ok.inj given).symm, reads.mpr rfl⟩
    | false =>
      exact .inr ⟨fun isRead => Bool.false_ne_true (reads.mp isRead), ending, demands,
        names_of_eq_ok given⟩
  cases type
  case number =>
    obtain ⟨number, read, given⟩ := Result.bind_eq_ok_iff.mp typed
    refine ofTest ?_ rfl given
    simp [FieldType.Reads, read, Option.isSome_iff_exists]
  case date =>
    refine ofTest ?_ rfl typed
    simp [FieldType.Reads, Option.isSome_iff_exists]
  case email | phone =>
    obtain ⟨text, spelled, given⟩ := Result.bind_eq_ok_iff.mp typed
    refine ofTest ?_ rfl given
    simp [FieldType.Reads, spelled]
  case url =>
    obtain ⟨text, spelled, judged⟩ := Result.bind_eq_ok_iff.mp typed
    obtain ⟨valid, isJudged, given⟩ := Result.bind_eq_ok_iff.mp judged
    refine ofTest ?_ rfl given
    simp [FieldType.Reads, spelled, isJudged]
  all_goals exact .inl ⟨(Except.ok.inj typed).symm, trivial⟩

/-- Without rules an answer may be missing, and one that is there is held against the type. -/
theorem verdict_nil (content : FieldContent) (answer : Value) :
    content.verdict [] answer =
      if answer.isEmptyAnswer (some content.type) then
        testVerdict content.label "is required" !content.required.truthy
      else typeVerdict content.type content.label answer := by
  simp only [FieldContent.verdict, rulesVerdict]
  generalize typeVerdict content.type content.label answer = typed
  cases answer.isEmptyAnswer (some content.type) with
  | true => cases content.required.truthy <;> rfl
  | false =>
    cases typed with
    | error fault => rfl
    | ok mismatch => cases mismatch <;> rfl

/-- The verdicts of a field compose. Where a field has a verdict with each of two lists of rules, its
verdict with the one list after the other is that with the first if this is a message, and otherwise
that with the second. With no rules at all, it is the message that the answer is required exactly if
it is and is empty, the message of the type exactly if the answer is there and can not be read as
the type asks, and nothing in every other case. -/
theorem Field.validate_composes (field : Field) (answer : Value) :
    (∀ rules others first second,
      (field.withRules rules).validate answer = .ok first →
      (field.withRules others).validate answer = .ok second →
      (field.withRules (rules ++ others)).validate answer = .ok (first.or second)) ∧
    ∀ verdict, (field.withRules []).validate answer = .ok verdict →
      (verdict.Names field.label "is required" ↔
        field.required.truthy = true ∧ answer.isEmptyAnswer (some field.type) = true) ∧
      (∀ ending, field.type.demand? = some ending →
        (verdict.Names field.label ending ↔
          answer.isEmptyAnswer (some field.type) = false ∧ ¬field.type.Reads answer)) ∧
      (verdict = none ↔
        if answer.isEmptyAnswer (some field.type) then field.required.truthy = false
        else field.type.Reads answer) := by
  constructor
  · intro rules others first second validated otherValidated
    obtain ⟨compiled, isCompiled⟩ := exists_compiled otherValidated
    rw [validate_append isCompiled, validated, otherValidated, firstRejection_ok]
  · intro verdict validated
    have noRules : compileRules field.type [] = .ok [] := rfl
    rw [field.validate_withRules noRules, verdict_nil] at validated
    have demanded := field.type.demand?_ne_required
    cases empty : answer.isEmptyAnswer (some field.type) with
    | true =>
      rw [empty, if_pos rfl] at validated
      cases required : field.required.truthy with
      | false =>
        rw [required] at validated
        obtain rfl := Except.ok.inj validated
        simp [not_names_none]
      | true =>
        rw [required] at validated
        have names : verdict.Names field.label "is required" := names_of_eq_ok validated
        have isMessage : verdict ≠ none := fun isNone => not_names_none _ _ (isNone ▸ names)
        refine ⟨by simp [names], fun ending demands => ?_, by simp [isMessage]⟩
        have silent : ¬verdict.Names field.label ending :=
          fun namesOther => demanded (names.ending_eq namesOther ▸ demands)
        simp [silent]
    | false =>
      rw [empty, if_neg Bool.false_ne_true] at validated
      rcases typeVerdict_cases validated with ⟨rfl, reads⟩ | ⟨unread, ending, demands, names⟩
      · simp [reads, not_names_none]
      · have isMessage : verdict ≠ none := fun isNone => not_names_none _ _ (isNone ▸ names)
        have silent : ¬verdict.Names field.label "is required" :=
          fun namesOther => demanded (names.ending_eq namesOther ▸ demands)
        refine ⟨by simp [silent], fun other otherDemands => ?_, by simp [unread, isMessage]⟩
        obtain rfl := Option.some.inj (demands.symm.trans otherDemands)
        simp [unread, names]

/-- An age that is asked for, to be held against rules. -/
def ageField : Field :=
  { type := .number, label := .str "Age", required := .bool true, id := "age" }

/-- An age that breaks a rule of each of two lists is answered with the message of the first, and
what is no number with that of the type, whatever the rules say. -/
theorem Field.validate_composes_ageField :
    let young : List (Entry ValidationRule) :=
      [.proper { kind := .known .min, parameter := .int 18, message := .str "Too young" }]
    let short : List (Entry ValidationRule) :=
      [.proper { kind := .known .minLength, parameter := .int 2, message := .str "Too short" }]
    (ageField.withRules young).validate (.str "7") = .ok (some (.str "Too young")) ∧
      (ageField.withRules short).validate (.str "7") = .ok (some (.str "Too short")) ∧
      (ageField.withRules (young ++ short)).validate (.str "7") = .ok (some (.str "Too young")) ∧
      (ageField.withRules []).validate (.str "old") =
        .ok (some (.str "Age must be a number")) ∧
      ¬FieldType.number.Reads (.str "old") := by
  intro young short
  have first : (ageField.withRules young).validate (.str "7") = .ok (some (.str "Too young")) :=
    Result.toOption_eq_some_iff.mp (by decide +kernel)
  have second : (ageField.withRules short).validate (.str "7") = .ok (some (.str "Too short")) :=
    Result.toOption_eq_some_iff.mp (by decide +kernel)
  have typed : (ageField.withRules []).validate (.str "old") =
      .ok (some (.str "Age must be a number")) :=
    Result.toOption_eq_some_iff.mp (by decide +kernel)
  refine ⟨first, second, ?_, typed, ?_⟩
  · exact (ageField.validate_composes _).1 young short _ _ first second
  · exact ((((ageField.validate_composes _).2 _ typed).2.1 _ rfl).mp ⟨_, rfl, rfl⟩).2

end FormEngine
