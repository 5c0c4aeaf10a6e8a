import FormEngine.Proofs.Repetition
import FormEngine.Proofs.Result
import FormEngine.Proofs.Table
import FormEngine.Proofs.Validation
import Mathlib.Data.List.Nodup

/-!
# What evaluating a form tells

An evaluation holds the verdicts of the visible fields and nothing else. Messages are entered only
if they count as something; that no verdict is lost this way is due to the validators, whose every
message does.
-/

namespace FormEngine

/-- The message of a type that an answer does not fit counts. -/
theorem truthy_of_typeVerdict {type : FieldType} {label answer message : Value}
    (rejected : typeVerdict type label answer = .ok (some message)) : message.truthy = true := by
  obtain ⟨ending, made⟩ := exists_labelled_of_typeVerdict rejected
  exact (isText_of_labelled made).2

/-- The message of a rule that an answer breaks counts. -/
theorem truthy_of_rulesVerdict {label answer message : Value} {empty : Bool}
    {rules : List CompiledRule}
    (rejected : rulesVerdict label answer empty rules = .ok (some message)) :
    message.truthy = true := by
  induction rules with
  | nil => cases rejected
  | cons compiled rest inductionHypothesis =>
    unfold rulesVerdict at rejected
    split at rejected
    · exact inductionHypothesis rejected
    · obtain ⟨passes, -, given⟩ := Result.bind_eq_ok_iff.mp rejected
      split at given
      · exact inductionHypothesis given
      · obtain ⟨said, isSaid, same⟩ := Result.bind_eq_ok_iff.mp given
        obtain rfl := Option.some.inj (Except.ok.inj same)
        exact truthy_of_rejection isSaid

/-- The message of any rejection counts. -/
theorem truthy_of_verdict {content : FieldContent} {rules : List CompiledRule}
    {answer message : Value} (rejected : content.verdict rules answer = .ok (some message)) :
    message.truthy = true := by
  simp only [FieldContent.verdict] at rejected
  split at rejected
  · obtain ⟨made, isMade, same⟩ := Result.bind_eq_ok_iff.mp rejected
    obtain rfl := Option.some.inj (Except.ok.inj same)
    exact (isText_of_labelled isMade).2
  · split at rejected
    · exact truthy_of_rulesVerdict rejected
    · obtain ⟨mismatch, typed, given⟩ := Result.bind_eq_ok_iff.mp rejected
      split at given
      · rw [← Option.some.inj (Except.ok.inj given)]
        exact truthy_of_typeVerdict typed
      · exact truthy_of_rulesVerdict given

/-- What a field says to an answer is shown as it is. -/
theorem shownMessage_of_validate {field : Field} {answer : Value} {verdict : Verdict}
    (validated : field.validate answer = .ok verdict) : shownMessage verdict = verdict := by
  cases verdict with
  | none => rfl
  | some message =>
    obtain ⟨validator, compiled, given⟩ := Result.bind_eq_ok_iff.mp validated
    obtain ⟨rules, -, same⟩ := Result.bind_eq_ok_iff.mp compiled
    obtain rfl := Except.ok.inj same
    simp [shownMessage, truthy_of_verdict given]

/-- The entry that the verdict of a field makes in the table of messages. -/
def Field.rejection? (answers : Answers) (field : Field) : Option (String × Value) :=
  match field.validate ((answers.get? field.id).getD .null) with
  | .ok (some message) => some (field.id, message)
  | _ => none

/-- An entry is that of a field which rejects its answer with the message. -/
theorem Field.rejection?_eq_some_iff {answers : Answers} {field : Field} {id : String}
    {message : Value} :
    field.rejection? answers = some (id, message) ↔
      field.id = id ∧ field.validate ((answers.get? field.id).getD .null) = .ok (some message) := by
  unfold Field.rejection?
  split
  case h_1 given validated => simp [validated]
  case h_2 other => simpa using fun _ => other message

/-- Every verdict makes its entry, in the order of the fields. -/
theorem entries_of_enterVerdicts {answers : Answers} {errors table : Table Value}
    {fields : List Field} (distinct : (fields.map (·.id)).Nodup)
    (new : ∀ field ∈ fields, field.id ∉ errors.keys)
    (entered : enterVerdicts answers errors fields = .ok table) :
    table.entries = errors.entries ++ fields.filterMap (Field.rejection? answers) := by
  induction fields generalizing errors with
  | nil => simp [Except.ok.inj entered]
  | cons field rest inductionHypothesis =>
    obtain ⟨verdict, validated, later⟩ := Result.bind_eq_ok_iff.mp entered
    rw [List.map_cons, List.nodup_cons] at distinct
    have entries : (enterVerdict errors field.id verdict).entries =
        errors.entries ++ (field.rejection? answers).toList := by
      unfold enterVerdict Field.rejection?
      rw [shownMessage_of_validate validated, validated]
      cases verdict with
      | none => simp
      | some message => simpa using Table.entries_insert_of_not_mem (new field (.head _))
    have newLater : ∀ other ∈ rest,
        other.id ∉ (enterVerdict errors field.id verdict).keys := by
      intro other member entered
      rw [Table.keys, entries, List.map_append, List.mem_append] at entered
      rcases entered with before | now
      · exact new other (.tail _ member) before
      · obtain ⟨⟨id, message⟩, isRejection, sameId⟩ := List.mem_map.mp now
        obtain ⟨rfl, -⟩ := Field.rejection?_eq_some_iff.mp (Option.mem_toList.mp isRejection)
        exact distinct.1 (List.mem_map.mpr ⟨other, member, sameId.symm⟩)
    rw [inductionHypothesis distinct.2 newLater later, entries, List.append_assoc,
      List.filterMap_cons]
    cases field.rejection? answers <;> rfl

/-- The messages of fields are their rejections, in order. -/
theorem entries_of_validateFields {answers : Answers} {table : Table Value} {fields : List Field}
    (distinct : (fields.map (·.id)).Nodup) (validated : validateFields fields answers = .ok table) :
    table.entries = fields.filterMap (Field.rejection? answers) := by
  simpa using entries_of_enterVerdicts distinct (by simp [Table.keys]) validated

/-- Where fields are validated, each of them has a verdict. -/
theorem exists_verdict {answers : Answers} {errors table : Table Value} {fields : List Field}
    (entered : enterVerdicts answers errors fields = .ok table) {field : Field}
    (member : field ∈ fields) :
    ∃ verdict, field.validate ((answers.get? field.id).getD .null) = .ok verdict := by
  induction fields generalizing errors with
  | nil => cases member
  | cons first rest inductionHypothesis =>
    obtain ⟨verdict, validated, later⟩ := Result.bind_eq_ok_iff.mp entered
    rcases List.mem_cons.mp member with rfl | inRest
    · exact ⟨verdict, validated⟩
    · exact inductionHypothesis later inRest

/-- Messages are entered under the ids of the fields only. -/
theorem keys_of_enterVerdicts {answers : Answers} {errors table : Table Value} {fields : List Field}
    (entered : enterVerdicts answers errors fields = .ok table) {id : String}
    (isKey : id ∈ table.keys) : id ∈ errors.keys ∨ id ∈ fields.map (·.id) := by
  induction fields generalizing errors with
  | nil => exact .inl (Except.ok.inj entered ▸ isKey)
  | cons field rest inductionHypothesis =>
    obtain ⟨verdict, -, later⟩ := Result.bind_eq_ok_iff.mp entered
    rcases inductionHypothesis later with inEntered | inRest
    · unfold enterVerdict at inEntered
      split at inEntered
      · rcases Table.mem_keys_insert inEntered with rfl | before
        · exact .inr (.head _)
        · exact .inl before
      · exact .inl inEntered
    · exact .inr (.tail _ inRest)

/-- No two rejections are entered under one id. -/
theorem nodup_keys_rejections {answers : Answers} {fields : List Field}
    (distinct : (fields.map (·.id)).Nodup) :
    ((fields.filterMap (Field.rejection? answers)).map (·.1)).Nodup := by
  refine distinct.sublist ?_
  induction fields with
  | nil => exact .slnil
  | cons field rest inductionHypothesis =>
    have later := inductionHypothesis (List.nodup_cons.mp distinct).2
    rw [List.filterMap_cons]
    split
    · exact later.cons _
    · next entry isRejection =>
      obtain ⟨sameId, -⟩ := Field.rejection?_eq_some_iff.mp isRejection
      simpa [sameId] using later

/-- Whether a field turns out to be visible. -/
def Field.isShown (fields : List Field) (answers : Answers) (field : Field) : Bool :=
  match field.isVisible fields answers with
  | .ok visible => visible
  | .error _ => false

theorem Field.isShown_iff {fields : List Field} {answers : Answers} {field : Field} :
    field.isShown fields answers = true ↔ field.isVisible fields answers = .ok true := by
  unfold Field.isShown
  split <;> simp [*]

/-- The visible ones of some fields are those that turn out to be visible, in order. -/
theorem visibleAmong_eq_filter {fields some visible : List Field} {answers : Answers}
    (given : visibleAmong fields answers some = .ok visible) :
    visible = some.filter (Field.isShown fields answers) := by
  induction some generalizing visible with
  | nil => exact (Except.ok.inj given).symm
  | cons field rest inductionHypothesis =>
    simp only [visibleAmong, Result.bind_eq_ok_iff] at given
    obtain ⟨isVisible, decided, others, later, same⟩ := given
    have sameShown : field.isShown fields answers = isVisible := by
      simp [Field.isShown, decided]
    rw [← Except.ok.inj same, inductionHypothesis later, List.filter_cons, sameShown]

variable {fields : List Field} {answers : Answers} {evaluation : Evaluation}

/-- The steps of an evaluation: the visible fields are found and validated. -/
theorem evaluate_eq_ok (evaluated : evaluate fields answers = .ok evaluation) :
    evaluation.visible = distinct ((fields.filter (Field.isShown fields answers)).map (·.id)) ∧
      validateFields (fields.filter (Field.isShown fields answers)) answers =
        .ok evaluation.errors := by
  obtain ⟨visible, found, later⟩ := Result.bind_eq_ok_iff.mp evaluated
  obtain ⟨errors, validated, same⟩ := Result.bind_eq_ok_iff.mp later
  obtain rfl := Except.ok.inj same
  obtain rfl := visibleAmong_eq_filter found
  exact ⟨rfl, validated⟩

/-- Every message of an evaluation is entered under the id of a field. -/
theorem keys_errors_subset (evaluated : evaluate fields answers = .ok evaluation) :
    evaluation.errors.keys ⊆ fields.map (·.id) := by
  intro id isKey
  rcases keys_of_enterVerdicts (evaluate_eq_ok evaluated).2 isKey with inEmpty | ofShown
  · cases inEmpty
  · exact (List.filter_sublist.map Field.id).subset ofShown

/-- The messages of an evaluation are the rejections by the visible fields. -/
theorem entries_errors (distinctIds : (fields.map (·.id)).Nodup)
    (evaluated : evaluate fields answers = .ok evaluation) :
    evaluation.errors.entries =
      (fields.filter (Field.isShown fields answers)).filterMap (Field.rejection? answers) :=
  entries_of_validateFields (distinctIds.sublist (List.filter_sublist.map Field.id))
    (evaluate_eq_ok evaluated).2

/-- The id of a field is among the visible ones exactly if the field is visible. -/
theorem id_mem_visible_iff (distinctIds : (fields.map (·.id)).Nodup)
    (evaluated : evaluate fields answers = .ok evaluation) {field : Field} (member : field ∈ fields) :
    field.id ∈ evaluation.visible ↔ field.isShown fields answers = true := by
  rw [(evaluate_eq_ok evaluated).1, mem_distinct, List.mem_map]
  constructor
  · rintro ⟨other, isOther, sameId⟩
    obtain ⟨otherMember, isShown⟩ := List.mem_filter.mp isOther
    exact List.inj_on_of_nodup_map distinctIds otherMember member sameId ▸ isShown
  · intro isShown
    exact ⟨field, List.mem_filter.mpr ⟨member, isShown⟩, rfl⟩

/-- A visible field says nothing to its answer exactly if it makes no entry. -/
theorem rejection?_eq_none_iff (evaluated : evaluate fields answers = .ok evaluation)
    {field : Field} (member : field ∈ fields.filter (Field.isShown fields answers)) :
    field.rejection? answers = none ↔
      field.validate ((answers.get? field.id).getD .null) = .ok none := by
  obtain ⟨verdict, validated⟩ := exists_verdict (evaluate_eq_ok evaluated).2 member
  unfold Field.rejection?
  rw [validated]
  cases verdict <;> simp

/-- Restricted to the visible ids, the messages of all fields are those of the visible fields. -/
theorem errors_eq_restriction (distinctIds : (fields.map (·.id)).Nodup)
    (evaluated : evaluate fields answers = .ok evaluation) {all : Table Value}
    (validated : validateFields fields answers = .ok all) :
    evaluation.errors = ⟨all.entries.filter fun entry => evaluation.visible.contains entry.1⟩ := by
  have entries : evaluation.errors.entries =
      all.entries.filter fun entry => evaluation.visible.contains entry.1 := by
    rw [entries_errors distinctIds evaluated, entries_of_validateFields distinctIds validated,
      List.filterMap_filter, List.filter_filterMap]
    refine List.filterMap_congr fun field member => ?_
    have visible := id_mem_visible_iff distinctIds evaluated member
    cases rejection : field.rejection? answers with
    | none => simp
    | some entry =>
      obtain ⟨sameId, -⟩ := Field.rejection?_eq_some_iff.mp rejection
      simp [Option.filter, ← sameId, visible]
  rw [← entries]

/-- An evaluation is exact. The visible ids are those of the fields that are visible; a message is
entered under an id exactly if a visible field with this id gives it as its verdict; so the answers
are valid exactly if every visible field accepts its own. Validating all fields, where that
succeeds, gives these messages and those of hidden fields. -/
theorem evaluate_exact (distinctIds : (fields.map (·.id)).Nodup)
    (evaluated : evaluate fields answers = .ok evaluation) :
    (∀ id, id ∈ evaluation.visible ↔
      ∃ field ∈ fields, field.id = id ∧ field.isVisible fields answers = .ok true) ∧
    (∀ id message, evaluation.errors.get? id = some message ↔
      ∃ field ∈ fields, field.id = id ∧ field.isVisible fields answers = .ok true ∧
        field.validate ((answers.get? id).getD .null) = .ok (some message)) ∧
    (evaluation.isValid = true ↔
      ∀ field ∈ fields, field.isVisible fields answers = .ok true →
        field.validate ((answers.get? field.id).getD .null) = .ok none) ∧
    ∀ all, validateFields fields answers = .ok all →
      evaluation.errors =
        ⟨all.entries.filter fun entry => evaluation.visible.contains entry.1⟩ := by
  have entries := entries_errors distinctIds evaluated
  have shownIds : ((fields.filter (Field.isShown fields answers)).map (·.id)).Nodup :=
    distinctIds.sublist (List.filter_sublist.map Field.id)
  refine ⟨fun id => ?_, fun id message => ?_, ?_, fun all validated =>
    errors_eq_restriction distinctIds evaluated validated⟩
  · rw [(evaluate_eq_ok evaluated).1, mem_distinct]
    simp only [List.mem_map, List.mem_filter, Field.isShown_iff, and_assoc]
    exact exists_congr fun field => and_congr_right fun _ => and_comm
  · rw [Table.get?_eq_some_iff (by simpa [Table.keys, entries] using nodup_keys_rejections shownIds),
      entries]
    simp only [List.mem_filterMap, List.mem_filter, Field.rejection?_eq_some_iff,
      Field.isShown_iff, and_assoc]
    refine exists_congr fun field => and_congr_right fun _ => ?_
    constructor
    · rintro ⟨visible, rfl, rejected⟩
      exact ⟨rfl, visible, rejected⟩
    · rintro ⟨rfl, visible, rejected⟩
      exact ⟨visible, rfl, rejected⟩
  · rw [Evaluation.isValid, Table.isEmpty, entries, List.isEmpty_iff, List.filterMap_eq_nil_iff]
    constructor
    · intro none field member visible
      have isShown := List.mem_filter.mpr ⟨member, Field.isShown_iff.mpr visible⟩
      exact (rejection?_eq_none_iff evaluated isShown).mp (none field isShown)
    · intro accepts field isShown
      obtain ⟨member, visible⟩ := List.mem_filter.mp isShown
      exact (rejection?_eq_none_iff evaluated isShown).mpr
        (accepts field member (Field.isShown_iff.mp visible))

/-- A field without a label that must be answered, with an empty message for it, and a field that
is shown by an answer to it. -/
def unlabelledFields : List Field :=
  [{ type := .checkbox, label := .str "", id := "consent",
     validationRules := [.proper { kind := .known .required }] },
   { type := .text, label := .str "Name", id := "name", required := .bool true,
     conditionalRules := [.proper { trigger := .str "consent", operator := .known .notEmpty }] }]

/-- Neither the missing label nor the empty message of the rule hides that the consent is missing,
and the field that is not shown is not held against its missing answer. -/
theorem evaluate_exact_unlabelledFields :
    ∃ evaluation all, evaluate unlabelledFields {} = .ok evaluation ∧
      validateFields unlabelledFields {} = .ok all ∧ all.keys = ["consent", "name"] ∧
      evaluation.visible = ["consent"] ∧
      evaluation.errors.get? "consent" = some (.str " is invalid") ∧
      evaluation.errors =
        ⟨all.entries.filter fun entry => evaluation.visible.contains entry.1⟩ := by
  obtain ⟨evaluation, evaluated, visible⟩ :
      ∃ evaluation, evaluate unlabelledFields {} = .ok evaluation ∧
        evaluation.visible = ["consent"] := ⟨_, rfl, rfl⟩
  obtain ⟨all, validated, keys⟩ :
      ∃ all, validateFields unlabelledFields {} = .ok all ∧ all.keys = ["consent", "name"] :=
    ⟨_, rfl, rfl⟩
  obtain ⟨-, messages, -, restricts⟩ := evaluate_exact (by decide) evaluated
  exact ⟨evaluation, all, evaluated, validated, keys, visible,
    (messages "consent" _).mpr ⟨_, .head _, rfl, rfl, rfl⟩, restricts all validated⟩

end FormEngine
