import FormEngine.Proofs.Evaluation
import FormEngine.Proofs.Field.Numbering
import FormEngine.Proofs.Inert

/-!
# The order of fields does not count

Conditions refer to fields by their ids, wherever in the form these stand, and every field is
validated by itself. So a form whose fields have distinct ids shows the same in every order, and the
orders that its fields claim are not looked at. Only where fields can not be evaluated, the order
says which of them is reported.
-/

namespace FormEngine

/-- Two evaluations show the same ids as visible, and the same message under every id. -/
structure Evaluation.Matches (left right : Evaluation) : Prop where
  visible : ∀ id, id ∈ left.visible ↔ id ∈ right.visible
  errors : ∀ id, left.errors.get? id = right.errors.get? id

/-- Two outcomes of evaluating a form are evaluations that show the same, or both are failures. -/
inductive SameOutcome : Except Fault Evaluation → Except Fault Evaluation → Prop
  | evaluated {left right : Evaluation} (same : left.Matches right) :
      SameOutcome (.ok left) (.ok right)
  | failed (fault other : Fault) : SameOutcome (.error fault) (.error other)

section

variable {fields : List Field} {answers : Answers}

/-- The visible ones of some fields are found exactly if each field is visible or not. -/
theorem exists_visibleAmong_iff {some : List Field} :
    (∃ visible, visibleAmong fields answers some = .ok visible) ↔
      ∀ field ∈ some, ∃ visible, field.isVisible fields answers = .ok visible := by
  induction some with
  | nil => simp [visibleAmong]
  | cons field rest inductionHypothesis =>
    rw [List.forall_mem_cons, ← inductionHypothesis]
    simp only [visibleAmong, Result.bind_eq_ok_iff]
    constructor
    · rintro ⟨_, visible, decided, others, found, -⟩
      exact ⟨⟨visible, decided⟩, others, found⟩
    · rintro ⟨⟨visible, decided⟩, others, found⟩
      exact ⟨_, visible, decided, others, found, rfl⟩

/-- The messages of some fields are entered exactly if each field has a verdict. -/
theorem exists_enterVerdicts_iff {errors : Table Value} {some : List Field} :
    (∃ table, enterVerdicts answers errors some = .ok table) ↔
      ∀ field ∈ some, ∃ verdict,
        field.validate ((answers.get? field.id).getD .null) = .ok verdict := by
  refine ⟨fun ⟨table, entered⟩ field member => exists_verdict entered member, fun verdicts => ?_⟩
  induction some generalizing errors with
  | nil => exact ⟨errors, rfl⟩
  | cons field rest inductionHypothesis =>
    obtain ⟨⟨verdict, validated⟩, later⟩ := List.forall_mem_cons.mp verdicts
    simpa only [enterVerdicts, validated, Result.ok_bind] using inductionHypothesis later

/-- A form is evaluated exactly if each field is visible or not and the visible ones have
verdicts. -/
theorem exists_evaluate_iff :
    (∃ evaluation, evaluate fields answers = .ok evaluation) ↔
      (∀ field ∈ fields, ∃ visible, field.isVisible fields answers = .ok visible) ∧
        ∀ field ∈ fields, field.isVisible fields answers = .ok true →
          ∃ verdict, field.validate ((answers.get? field.id).getD .null) = .ok verdict := by
  have shown (visible : List Field) (found : visibleFields fields answers = .ok visible) :
      (∃ table, validateFields visible answers = .ok table) ↔
        ∀ field ∈ fields, field.isVisible fields answers = .ok true →
          ∃ verdict, field.validate ((answers.get? field.id).getD .null) = .ok verdict := by
    rw [visibleAmong_eq_filter found]
    refine exists_enterVerdicts_iff.trans ?_
    simp only [List.mem_filter, Field.isShown_iff, and_imp]
  rw [← exists_visibleAmong_iff]
  constructor
  · rintro ⟨evaluation, evaluated⟩
    obtain ⟨visible, found, later⟩ := Result.bind_eq_ok_iff.mp evaluated
    obtain ⟨table, validated, -⟩ := Result.bind_eq_ok_iff.mp later
    exact ⟨⟨visible, found⟩, (shown visible found).mp ⟨table, validated⟩⟩
  · rintro ⟨⟨visible, found⟩, verdicts⟩
    obtain ⟨table, validated⟩ := (shown visible found).mpr verdicts
    exact ⟨⟨distinct (visible.map (·.id)), table⟩, by
      simp only [evaluate, visibleFields, found, validated, Result.ok_bind, Result.pure_eq_ok]⟩

end

section

variable {fields others : List Field} {answers : Answers}

/-- Where ids are distinct, an id refers to the field that has it, wherever it stands. -/
theorem referredField?_eq_some_iff (distinctIds : (fields.map (·.id)).Nodup) {id : String}
    {field : Field} : referredField? fields id = some field ↔ field ∈ fields ∧ field.id = id := by
  constructor
  · intro found
    exact ⟨List.mem_reverse.mp (List.mem_of_find?_eq_some found),
      by simpa using List.find?_some found⟩
  · rintro ⟨member, rfl⟩
    cases found : referredField? fields field.id with
    | none => exact absurd (List.mem_map_of_mem member) (referredField?_eq_none_iff.mp found)
    | some other =>
      have isOther : other ∈ fields := List.mem_reverse.mp (List.mem_of_find?_eq_some found)
      have sameId : other.id = field.id := by simpa using List.find?_some found
      rw [List.inj_on_of_nodup_map distinctIds isOther member sameId]

/-- A rule is met in the same case where ids refer to the same fields. -/
theorem isMet_of_referredField? (same : ∀ id, referredField? others id = referredField? fields id)
    (rule : ConditionalRule) : rule.isMet others answers = rule.isMet fields answers := by
  simp only [ConditionalRule.isMet, ConditionalRule.triggerField?, funext same]

variable (distinctIds : (fields.map (·.id)).Nodup) (permuted : others.Perm fields)
include distinctIds permuted

/-- A field is visible in the same cases among the same fields in another order. -/
theorem isVisible_of_perm (field : Field) :
    field.isVisible others answers = field.isVisible fields answers := by
  refine allMet_congr fun rule _ =>
    isMet_of_referredField? (fun id => Option.ext fun trigger => ?_) rule
  have otherDistinct : (others.map (·.id)).Nodup := (permuted.map _).nodup_iff.mpr distinctIds
  rw [referredField?_eq_some_iff otherDistinct, referredField?_eq_some_iff distinctIds,
    permuted.mem_iff]

/-- Evaluations of the same fields in two orders show the same. -/
theorem matches_of_perm {left right : Evaluation} (isLeft : evaluate others answers = .ok left)
    (isRight : evaluate fields answers = .ok right) : left.Matches right := by
  have otherDistinct : (others.map (·.id)).Nodup := (permuted.map _).nodup_iff.mpr distinctIds
  have sameShown : Field.isShown others answers = Field.isShown fields answers :=
    funext fun field => by
      simp only [Field.isShown, isVisible_of_perm distinctIds permuted field]
  have shown : (others.filter (Field.isShown others answers)).Perm
      (fields.filter (Field.isShown fields answers)) := by
    rw [sameShown]
    exact permuted.filter _
  have nodup {form : List Field} (distinct : (form.map (·.id)).Nodup) :
      ((form.filter (Field.isShown form answers)).map (·.id)).Nodup :=
    distinct.sublist (List.filter_sublist.map Field.id)
  refine ⟨fun id => ?_, fun id => Option.ext fun message => ?_⟩
  · rw [(evaluate_eq_ok isLeft).1, (evaluate_eq_ok isRight).1, mem_distinct, mem_distinct]
    exact (shown.map _).mem_iff
  · have leftEntries := entries_errors otherDistinct isLeft
    have rightEntries := entries_errors distinctIds isRight
    rw [Table.get?_eq_some_iff, Table.get?_eq_some_iff, leftEntries, rightEntries]
    · exact (shown.filterMap _).mem_iff
    · simpa [Table.keys, rightEntries] using nodup_keys_rejections (nodup distinctIds)
    · simpa [Table.keys, leftEntries] using nodup_keys_rejections (nodup otherDistinct)

/-- The same fields in another order are evaluated to the same, if they are evaluated at all. -/
theorem sameOutcome_of_perm : SameOutcome (evaluate others answers) (evaluate fields answers) := by
  have sameSuccess : (∃ evaluation, evaluate others answers = .ok evaluation) ↔
      ∃ evaluation, evaluate fields answers = .ok evaluation := by
    rw [exists_evaluate_iff, exists_evaluate_iff]
    simp only [permuted.mem_iff, isVisible_of_perm distinctIds permuted]
  cases isLeft : evaluate others answers with
  | ok left =>
    obtain ⟨right, isRight⟩ := sameSuccess.mp ⟨left, isLeft⟩
    rw [isRight]
    exact .evaluated (matches_of_perm distinctIds permuted isLeft isRight)
  | error fault =>
    cases isRight : evaluate fields answers with
    | error other => exact .failed fault other
    | ok right =>
      obtain ⟨left, succeeds⟩ := sameSuccess.mpr ⟨right, isRight⟩
      rw [isLeft] at succeeds
      cases succeeds

end

/-- The field at the first place, whichever it claims. -/
def Field.unplaced (field : Field) : Field :=
  field.withOrder 0

/-- Numbering changes nothing but the orders. -/
@[simp] theorem map_unplaced_renumber (fields : List Field) :
    (renumber fields).map Field.unplaced = fields.map Field.unplaced := by
  apply List.ext_getElem?
  intro position
  simp only [renumber, List.getElem?_map, List.getElem?_mapIdx, Option.map_map]
  rfl

/-- Orders show neither in visibility nor in verdicts. -/
theorem unnoticed_unplaced (fields : List Field) (answers : Answers) :
    Unnoticed Field.unplaced fields answers where
  id _ := rfl
  type _ := rfl
  conditions _ := rfl
  verdict _ _ := rfl

/-- The same fields in another order, whichever orders they claim, are evaluated to the same. -/
theorem sameOutcome_of_perm_unplaced {fields others : List Field}
    (distinctIds : (fields.map (·.id)).Nodup)
    (permuted : (others.map Field.unplaced).Perm (fields.map Field.unplaced)) (answers : Answers) :
    SameOutcome (evaluate others answers) (evaluate fields answers) := by
  rw [← (unnoticed_unplaced others answers).evaluate_map,
    ← (unnoticed_unplaced fields answers).evaluate_map]
  refine sameOutcome_of_perm ?_ permuted
  simpa [Function.comp_def, Field.unplaced, Field.withOrder] using distinctIds

end FormEngine
