import FormEngine.Proofs.Analysis.Listing
import FormEngine.Proofs.Document.Analysable
import FormEngine.Proofs.Document.Normal
import FormEngine.Proofs.Inert
import FormEngine.Proofs.Json.Reading
import FormEngine.Proofs.Validation

/-!
# What is said of patterns that are none

Three tell of a pattern that is none: the importer, which warns of it, the report on the form, which
lists it, and the compiler of the field, which gives notice of it. They agree on every form that was
read from a document, and the rules that they tell of may as well be left out.
-/

namespace FormEngine

/-- Where patterns pass, the warnings are those of the parameters that are no patterns, in order. -/
theorem warnings_checkPatterns {fieldId : String} {entries : List (Entry ValidationRule)}
    (passed : (checkPatterns fieldId entries).result = .ok ()) :
    (checkPatterns fieldId entries).warnings =
      ((entries.filterMap Entry.proper?).filter (·.hasInvalidPattern)).map
        fun rule => ⟨fieldId, rule.parameter⟩ := by
  induction entries with
  | nil => rfl
  | cons entry rest inductionHypothesis =>
    cases entry with
    | stray value => exact inductionHypothesis passed
    | proper rule =>
      simp only [checkPatterns] at passed ⊢
      split at passed
      · next kind invalid =>
        have hasInvalid := ValidationRule.hasInvalidPattern_iff.mpr ⟨kind, invalid⟩
        simp [Findings.after, hasInvalid, inductionHypothesis passed]
      · cases passed
      · next notInvalid notRefused =>
        have hasNone : ¬rule.hasInvalidPattern = true := fun hasInvalid =>
          (ValidationRule.hasInvalidPattern_iff.mp hasInvalid).elim notInvalid
        simp [hasNone, inductionHypothesis passed]

/-- The importer warns of a field by the parameters of it that are no patterns, in order. -/
theorem filter_warnings_readForm {strict : Bool} {supply : Supply} {document : Value} {form : Form}
    (read : (readForm strict supply document).result = .ok form) {field : Field}
    (member : field ∈ form.fields) :
    ((readForm strict supply document).warnings.filter (·.fieldId == field.id)).map (·.parameter) =
      field.invalidParameters := by
  obtain ⟨_, _, _, _, _, fields, _, -, -, -, -, passed, rfl, warnings⟩ := readForm_eq_ok read
  obtain ⟨distinct, -, passes⟩ := result_checkFields_eq_ok_iff.mp passed
  obtain ⟨placed, inFields, position, rfl⟩ := mem_arrange member
  have warningsOf : placed.warnings = _ :=
    warnings_checkPatterns (result_checkPatterns_eq_ok_iff.mpr (passes placed inFields).patterns)
  have sameId : (placed.field.withOrder position).id = placed.id := rfl
  rw [warnings, warnings_checkFields passed, filter_warnings, sameId,
    filter_key_of_mem distinct inFields]
  simp [warningsOf, Field.invalidParameters, Field.properRules, PlacedField.field, Field.withOrder]

/-- Where rules are compiled, notice is given of the parameters that are no patterns, in order. -/
theorem ruleNotices_eq {type : FieldType} {fieldId : String} {entries : List (Entry ValidationRule)}
    {compiled : List CompiledRule} (isCompiled : compileRules type entries = .ok compiled) :
    ruleNotices type fieldId entries =
      ((entries.filterMap Entry.proper?).filter (·.hasInvalidPattern)).map
        fun rule => .invalidPattern rule.parameter fieldId := by
  induction entries generalizing compiled with
  | nil => rfl
  | cons entry rest inductionHypothesis =>
    cases entry with
    | stray value => cases isCompiled
    | proper rule =>
      obtain ⟨check, others, isChecked, areCompiled, -⟩ := compileRules_cons_eq_ok isCompiled
      simp only [ruleNotices, isChecked]
      split
      · next kind invalid =>
        have hasInvalid := ValidationRule.hasInvalidPattern_iff.mpr ⟨kind, invalid⟩
        simp [hasInvalid, inductionHypothesis areCompiled]
      · next notInvalid =>
        have hasNone : ¬rule.hasInvalidPattern = true := fun hasInvalid =>
          (ValidationRule.hasInvalidPattern_iff.mp hasInvalid).elim notInvalid
        simp [hasNone, inductionHypothesis areCompiled]

/-- A field that can be compiled gives notice of its parameters that are no patterns, in order. -/
theorem notices_of_validator {field : Field} {validator : Validator}
    (compiled : field.validator = .ok validator) :
    field.notices = field.invalidParameters.map (.invalidPattern · field.id) := by
  obtain ⟨rules, areCompiled, -⟩ := Result.bind_eq_ok_iff.mp compiled
  rw [Field.notices, ruleNotices_eq areCompiled, Field.invalidParameters, List.map_map]
  rfl

/-- Of a field whose id no other has, a report lists the parameters that are no patterns, in order. -/
theorem listed_invalidPatterns {form : Form} (distinct : form.fieldIds.Nodup) {report : Report}
    (analyzed : form.analyze = .ok report) {field : Field} (member : field ∈ form.fields) :
    report.invalidPatterns.listed field.id = field.invalidParameters.map Value.text := by
  have listed := ((lists_of_analyzeFields analyzed).1 field.id).invalidPatterns
  rw [filter_key_of_mem distinct member] at listed
  simpa [Field.invalidParameters, Function.comp_def] using listed

/-- A form that was read from a document without overlong integers, as all are that are read from
JSON, has a report if its labels are texts. Of every field of a form that was read, the warnings of
the importer name, in the order of the rules, the parameters that are no patterns; a report lists the
texts of them; the field, if it can be compiled, gives notice of them; and without the rules that
have them it gives the same verdicts. -/
theorem pattern_reports_agree {strict : Bool} {supply : Supply} {document : Value} {form : Form}
    (read : (readForm strict supply document).result = .ok form) :
    ((document.hasOverlong = false ∨ ∃ text, Json.read text = some document) →
      (∀ field ∈ form.fields, field.label.IsText) → ∃ report, form.analyze = .ok report) ∧
    ∀ field ∈ form.fields,
      ((readForm strict supply document).warnings.filter (·.fieldId == field.id)).map
        (·.parameter) = field.invalidParameters ∧
      (∀ report, form.analyze = .ok report →
        report.invalidPatterns.listed field.id = field.invalidParameters.map Value.text) ∧
      (∀ validator, field.validator = .ok validator →
        field.notices = field.invalidParameters.map (.invalidPattern · field.id)) ∧
      ∀ answer, (field.without ValidationRule.hasInvalidPattern fun _ => false).validate answer =
        field.validate answer := by
  refine ⟨fun origin labels => ?_, fun field member => ⟨?_, fun report analyzed => ?_,
    fun validator compiled => ?_, fun answer => ?_⟩⟩
  · have short : document.hasOverlong = false :=
      origin.elim id fun ⟨text, given⟩ => Json.hasOverlong_of_read given
    exact (exists_analyze_iff_of_short short read).mpr labels
  · exact filter_warnings_readForm read member
  · exact listed_invalidPatterns (distinct_and_placed_of_readForm read).1 analyzed member
  · exact notices_of_validator compiled
  · refine Field.validate_without (fun rule hasInvalid => ?_) _ answer
    exact rule.ruleCheck_of_isBroken (by simp [ValidationRule.isBroken, hasInvalid]) field.type

/-- A document with two fields, the later one first. That has three patterns, of which one is given
by older names and is a map, whose text is none. -/
def patternDocument : Value :=
  .record [("fields", .list [
    .record [("id", .str "late"), ("type", .str "text"), ("label", .str "Late"), ("order", .int 1),
      ("validationRules", .list [
        .record [("kind", .str "pattern"), ("parameter", .str "(")],
        .record [("kind", .str "pattern"), ("parameter", .str "^a")],
        .record [("type", .str "pattern"), ("value", .record [("a", .str "(")])]])],
    .record [("id", .str "early"), ("type", .str "text"), ("label", .str "Early"),
      ("validationRules", .list [.record [("kind", .str "pattern"), ("parameter", .str "*")]])]])]

/-- The importer and the report tell of the same two patterns of the later field. -/
theorem pattern_reports_agree_patternDocument :
    ∃ form field report,
      (readForm true ⟨.counting "f", .still .startOf2024⟩ patternDocument).result = .ok form ∧
      field ∈ form.fields ∧ field.id = "late" ∧ form.analyze = .ok report ∧
      field.invalidParameters = [.str "(", .record [("a", .str "(")]] ∧
      report.invalidPatterns.listed "late" = ["(", "\x7b'a': '('\x7d"] := by
  obtain ⟨form, read⟩ : ∃ form,
      (readForm true ⟨.counting "f", .still .startOf2024⟩ patternDocument).result = .ok form :=
    Result.exists_of_isOk (by decide +kernel)
  obtain ⟨reported, told⟩ := pattern_reports_agree read
  obtain ⟨_, _, _, _, _, fields, _, opened, -, claim, fieldsRead, -, rfl, -⟩ := readForm_eq_ok read
  -- The sort that arranges the fields does not reduce, so they are looked at as they were read.
  cases opened
  cases claim
  have labelled : fields.map (fun field => (field.id, field.label)) =
      [("late", .str "Late"), ("early", .str "Early")] := by
    have same := congrArg (fun result => result.1.toOption.map fun fields =>
      fields.map fun (field : PlacedField) => (field.id, field.label)) fieldsRead
    exact Option.some.inj (same.symm.trans (by decide +kernel))
  obtain ⟨report, analyzed⟩ := reported (.inl (by decide +kernel)) fun field member => by
    obtain ⟨placed, inFields, _, rfl⟩ := mem_arrange member
    have isLabel : (placed.id, placed.label) ∈ [("late", Value.str "Late"), ("early", .str "Early")] :=
      labelled ▸ List.mem_map_of_mem inFields
    rcases List.mem_pair.mp isLabel with same | same
    · exact ⟨_, (Prod.mk.inj same).2⟩
    · exact ⟨_, (Prod.mk.inj same).2⟩
  obtain ⟨field, member, isLate⟩ : ∃ field ∈ arrange fields, field.id = "late" := by
    have ids : fields.map (·.id) = ["late", "early"] := by
      simpa [Function.comp_def] using congrArg (List.map Prod.fst) labelled
    exact List.mem_map.mp ((map_id_arrange fields).mem_iff.mpr (by simp [ids]))
  obtain ⟨warned, listed, -⟩ := told field member
  rw [isLate] at warned listed
  have parameters : field.invalidParameters = [.str "(", .record [("a", .str "(")]] :=
    warned.symm.trans (by decide +kernel)
  refine ⟨_, field, report, read, member, isLate, analyzed, parameters, ?_⟩
  rw [listed report analyzed, parameters]
  decide +kernel

end FormEngine
