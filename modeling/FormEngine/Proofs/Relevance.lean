import FormEngine.Proofs.Evaluation
import FormEngine.Proofs.Inert

/-!
# Which answers count

Evaluating a form asks for the answers to the triggers of its conditions and to its visible fields,
and for no others: what a hidden field was answered, or a field that is not there, shows nowhere. A
field without an answer counts as one that was answered with nothing. Conditions take a missing
answer for an empty text and validation takes it for null, but all empty answers get one verdict.
-/

namespace FormEngine

/-- The visible fields are the same if each field is visible in the same case, or can not be
decided for the same reason. -/
theorem visibleAmong_congr {fields others some : List Field} {given answers : Answers}
    (same : ∀ field ∈ some, field.isVisible others answers = field.isVisible fields given) :
    visibleAmong others answers some = visibleAmong fields given some := by
  induction some with
  | nil => rfl
  | cons field rest inductionHypothesis =>
    obtain ⟨first, later⟩ := List.forall_mem_cons.mp same
    simp only [visibleAmong, first, inductionHypothesis later]

/-- The messages are the same if each field has the same verdict. -/
theorem enterVerdicts_congr {some : List Field} {given answers : Answers} (errors : Table Value)
    (same : ∀ field ∈ some, field.validate ((answers.get? field.id).getD .null) =
      field.validate ((given.get? field.id).getD .null)) :
    enterVerdicts answers errors some = enterVerdicts given errors some := by
  induction some generalizing errors with
  | nil => rfl
  | cons field rest inductionHypothesis =>
    obtain ⟨first, later⟩ := List.forall_mem_cons.mp same
    simp only [enterVerdicts, first, fun errors => inductionHypothesis errors later]

variable {fields : List Field} {given answers : Answers}

/-- A form has the same outcome for other answers if each field is visible in the same case and the
visible ones have the same verdicts. -/
theorem evaluate_congr
    (visible : ∀ field ∈ fields, field.isVisible fields answers = field.isVisible fields given)
    (verdicts : ∀ field ∈ fields, field.isVisible fields given = .ok true →
      field.validate ((answers.get? field.id).getD .null) =
        field.validate ((given.get? field.id).getD .null)) :
    evaluate fields answers = evaluate fields given := by
  have sameVisible : visibleFields fields answers = visibleFields fields given :=
    visibleAmong_congr visible
  unfold evaluate
  rw [sameVisible]
  cases found : visibleFields fields given with
  | error fault => rfl
  | ok shown =>
    have sameMessages : validateFields shown answers = validateFields shown given := by
      refine enterVerdicts_congr {} fun field isShown => ?_
      rw [visibleAmong_eq_filter found] at isShown
      obtain ⟨member, shows⟩ := List.mem_filter.mp isShown
      exact verdicts field member (Field.isShown_iff.mp shows)
    simp only [Result.ok_bind, sameMessages]

/-- The ids that the conditions of some fields depend on. -/
def triggerIds (fields : List Field) : List String :=
  fields.flatMap fun field => field.properConditions.filterMap (·.trigger.text?)

/-- A rule asks for the answer to its trigger only, and takes a missing one for empty text. -/
theorem ConditionalRule.isMet_congr {rule : ConditionalRule}
    (same : ∀ id, rule.trigger.text? = some id →
      (answers.get? id).getD (.str "") = (given.get? id).getD (.str "")) :
    rule.isMet fields answers = rule.isMet fields given := by
  unfold ConditionalRule.isMet
  cases found : rule.triggerField? fields with
  | error fault => rfl
  | ok trigger? =>
    cases trigger? with
    | none => rfl
    | some trigger =>
      have isTrigger : rule.trigger.text? = some trigger.id := by
        unfold ConditionalRule.triggerField? at found
        split at found
        · cases found
        · obtain ⟨id, isText, isThere⟩ := Option.bind_eq_some_iff.mp (Except.ok.inj found)
          have sameId : trigger.id = id := by simpa using List.find?_some isThere
          rw [isText, sameId]
      simp only [Result.ok_bind, same trigger.id isTrigger]

/-- Whether the fields of a form are visible depends on the answers to the triggers only. -/
theorem isVisible_congr
    (same : ∀ id ∈ triggerIds fields,
      (answers.get? id).getD (.str "") = (given.get? id).getD (.str ""))
    {field : Field} (member : field ∈ fields) :
    field.isVisible fields answers = field.isVisible fields given := by
  refine allMet_congr fun rule inField => ConditionalRule.isMet_congr fun id isTrigger => same id ?_
  exact List.mem_flatMap.mpr ⟨field, member, List.mem_filterMap.mpr ⟨rule, inField, isTrigger⟩⟩

/-- Answers agree on an id if they have the same answer to it, or both have none. -/
def Answers.AgreeOn (answers given : Answers) (id : String) : Prop :=
  answers.get? id = given.get? id

/-- Answers that do not count do not show. A form has the same outcome for all answers that agree
with the given ones on the triggers of its conditions and on the fields that are visible for these,
whatever the answers to hidden fields and under other ids are. -/
theorem evaluate_of_agreeOn
    (triggers : ∀ id ∈ triggerIds fields, answers.AgreeOn given id)
    (visible : ∀ field ∈ fields, field.isVisible fields given = .ok true →
      answers.AgreeOn given field.id) :
    evaluate fields answers = evaluate fields given := by
  refine evaluate_congr (fun field member => ?_) fun field member isVisible => ?_
  · exact isVisible_congr (fun id isTrigger => by rw [triggers id isTrigger]) member
  · rw [visible field member isVisible]

/-- Somebody who works for nobody need not say for whom. -/
def employmentFields : List Field :=
  [{ type := .radio, label := .str "Employed", id := "employed" },
   { type := .email, label := .str "Company email", id := "company", required := .bool true,
     conditionalRules := [.proper { trigger := .str "employed", comparison := .str "yes" }] },
   { type := .email, label := .str "Email", id := "email" }]

/-- An address that would be refused, left over from another answer, shows no more than an answer to
a question that was never asked. -/
theorem evaluate_of_agreeOn_employmentFields :
    let given : Answers := ⟨[("employed", .str "no"), ("email", .str "here"), ("company", .str "there")]⟩
    let answers : Answers := ⟨[("age", .int 4), ("email", .str "here"), ("employed", .str "no")]⟩
    (∀ id ∈ triggerIds employmentFields, answers.AgreeOn given id) ∧
      (∀ field ∈ employmentFields, field.isVisible employmentFields given = .ok true →
        answers.AgreeOn given field.id) ∧
      (evaluate employmentFields answers).toOption =
        some ⟨["employed", "email"], ⟨[("email", .str "Email must be a valid email address")]⟩⟩ := by
  intro given answers
  have triggers : ∀ id ∈ triggerIds employmentFields, answers.AgreeOn given id := by
    simp [triggerIds, employmentFields, Field.properConditions, Value.text?, Answers.AgreeOn,
      Table.get?, answers, given]
  have visible : ∀ field ∈ employmentFields, field.isVisible employmentFields given = .ok true →
      answers.AgreeOn given field.id := by
    rw [employmentFields, List.forall_mem_cons, List.forall_mem_cons, List.forall_mem_singleton]
    refine ⟨fun _ => rfl, fun shown => ?_, fun _ => rfl⟩
    exact absurd (Field.isShown_iff.mpr shown) (by decide +kernel)
  refine ⟨triggers, visible, ?_⟩
  rw [evaluate_of_agreeOn triggers visible]
  decide +kernel

/-- Rules give all empty answers one verdict: only requirements look at them, and find them empty. -/
theorem rulesVerdict_of_empty {type : FieldType} {label answer other : Value}
    (empty : answer.isEmptyAnswer (some type) = true)
    (otherEmpty : other.isEmptyAnswer (some type) = true) {compiled : List CompiledRule}
    (tests : ∀ item ∈ compiled, ruleCheck type item.rule = .ok (some item.check)) :
    rulesVerdict label answer true compiled = rulesVerdict label other true compiled := by
  induction compiled with
  | nil => rfl
  | cons item rest inductionHypothesis =>
    obtain ⟨test, later⟩ := List.forall_mem_cons.mp tests
    by_cases required : item.rule.kind = .known .required
    · have check : item.check = fun answer => .ok (!answer.isEmptyAnswer (some type)) := by
        simpa [ruleCheck, required] using test.symm
      simp [rulesVerdict, required, check, empty, otherEmpty]
    · simpa [rulesVerdict, required] using inductionHypothesis later

/-- A field gives all empty answers one verdict. -/
theorem Field.validate_of_empty {field : Field} {answer other : Value}
    (empty : answer.isEmptyAnswer (some field.type) = true)
    (otherEmpty : other.isEmptyAnswer (some field.type) = true) :
    field.validate answer = field.validate other := by
  unfold Field.validate FieldContent.validator
  cases isCompiled : compileRules field.type field.validationRules with
  | error fault => rfl
  | ok compiled =>
    have sameByRules : rulesVerdict field.label answer true compiled =
        rulesVerdict field.label other true compiled :=
      rulesVerdict_of_empty empty otherEmpty fun item member =>
        (mem_entries_of_compileRules isCompiled item member).2
    simp [FieldContent.verdict, empty, otherEmpty, sameByRules]

/-- The answers with an empty text under each of some ids. -/
def Answers.leaveBlank (answers : Answers) (ids : List String) : Answers :=
  ids.foldl (fun answers id => answers.insert id (.str "")) answers

/-- What is found under an id afterwards. -/
theorem Answers.get?_leaveBlank (answers : Answers) (ids : List String) (id : String) :
    (answers.leaveBlank ids).get? id = if id ∈ ids then some (.str "") else answers.get? id := by
  induction ids generalizing answers with
  | nil => simp [leaveBlank]
  | cons first rest inductionHypothesis =>
    have later : (answers.leaveBlank (first :: rest)).get? id =
        (leaveBlank (answers.insert first (.str "")) rest).get? id := rfl
    rw [later, inductionHypothesis, Table.get?_insert]
    by_cases here : first = id
    · simp [here]
    · simp [here, Ne.symm here]

/-- Not to answer is to answer with nothing. A form has the same outcome whether fields are left
without an answer or get an empty text for one. -/
theorem evaluate_leaveBlank (fields : List Field) (answers : Answers) (ids : List String)
    (absent : ∀ id ∈ ids, id ∉ answers.keys) :
    evaluate fields (answers.leaveBlank ids) = evaluate fields answers := by
  have missing (id : String) (isBlank : id ∈ ids) : answers.get? id = none :=
    Table.get?_eq_none_iff.mpr (absent id isBlank)
  refine evaluate_congr (fun field member => isVisible_congr (fun id _ => ?_) member)
    fun field member _ => ?_
  · rw [Answers.get?_leaveBlank]
    split
    · next isBlank => simp [missing id isBlank]
    · rfl
  · rw [Answers.get?_leaveBlank]
    split
    · next isBlank =>
      rw [missing field.id isBlank]
      exact Field.validate_of_empty rfl rfl
    · rfl

/-- A question that shows two others, one while it is not answered and one once it is. -/
def openQuestions : List Field :=
  [{ type := .number, label := .str "Age", id := "age",
     validationRules := [.proper { kind := .known .required, message := .str "How old?" }] },
   { type := .date, label := .str "Birthday", id := "birthday", required := .bool true,
     conditionalRules := [.proper { trigger := .str "age", comparison := .str "" }] },
   { type := .text, label := .str "Name", id := "name",
     conditionalRules := [.proper { trigger := .str "age", operator := .known .notEmpty }] }]

/-- The questions that are open are the same with empty answers, and so is what is said about
them. -/
theorem evaluate_leaveBlank_openQuestions :
    let ids := ["age", "birthday", "address"]
    (∀ id ∈ ids, id ∉ (⟨[("name", .str "Ann")]⟩ : Answers).keys) ∧
      (evaluate openQuestions (Answers.leaveBlank ⟨[("name", .str "Ann")]⟩ ids)).toOption =
        some ⟨["age", "birthday"],
          ⟨[("age", .str "How old?"), ("birthday", .str "Birthday is required")]⟩⟩ := by
  intro ids
  have absent : ∀ id ∈ ids, id ∉ (⟨[("name", .str "Ann")]⟩ : Answers).keys := by decide
  refine ⟨absent, ?_⟩
  rw [evaluate_leaveBlank openQuestions _ ids absent]
  decide +kernel

end FormEngine
