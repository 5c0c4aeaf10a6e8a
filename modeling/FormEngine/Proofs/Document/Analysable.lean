import FormEngine.Proofs.Analysis.Report
import FormEngine.Proofs.Document.Readable
import FormEngine.Proofs.Document.Tree
import FormEngine.Proofs.Value.Spelling

/-!
# Forms that were read can be analysed

A form that was read from a document without overlong integers, as documents in JSON are, can be
analysed exactly if its labels are texts: its rules and conditions are proper, what is unknown in
them can be written, and its fields are numbered.
-/

namespace FormEngine

/-- What holds no overlong integer consists of parts that hold none. -/
theorem Value.handsDown_short : HandsDown (·.hasOverlong = false) where
  null := rfl
  list short := hasOverlong_collection_eq_false_iff.mp short
  map short entry member := (hasOverlong_map_eq_false_iff.mp short entry member).2

/-- So do its items, whichever they are. -/
theorem Value.short_of_items? {value : Value} {items : List Value}
    (short : value.hasOverlong = false) (given : value.items? = some items) :
    ∀ item ∈ items, item.hasOverlong = false := by
  cases value with
  | collection shape members =>
    cases given
    exact hasOverlong_collection_eq_false_iff.mp short
  | str text =>
    cases given
    simp [hasOverlong]
  | map entries =>
    cases given
    intro key isKey
    obtain ⟨entry, member, rfl⟩ := List.mem_map.mp isKey
    exact (hasOverlong_map_eq_false_iff.mp short entry member).1
  | _ => cases given

/-- So do the items of a part that should be a list. -/
theorem short_of_partItems {part : Value} {items : List Value} (short : part.hasOverlong = false)
    (opened : partItems part = .ok items) : ∀ item ∈ items, item.hasOverlong = false := by
  unfold partItems at opened
  split at opened
  · cases opened
    simp
  · split at opened
    · next given =>
      cases opened
      exact Value.short_of_items? short given
    · cases opened

/-- So do the documents of the validation rules of a field. -/
theorem short_of_validationRuleDocuments {entries : Entries}
    (short : entries.Hold (·.hasOverlong = false)) :
    ∀ document ∈ validationRuleDocuments entries, document.hasOverlong = false := by
  have shortPart := Value.handsDown_short.partOrLegacy short "validationRules" "validation"
  unfold validationRuleDocuments
  split
  · next items isList =>
    rw [isList] at shortPart
    exact Value.handsDown_short.list shortPart
  · simp

/-- A rule that was read has a kind that is known or can be written. -/
theorem isWritten_of_readValidationRule {document : Value} (short : document.hasOverlong = false)
    {rule : ValidationRule} (read : readValidationRule document = .ok rule) :
    rule.kind.IsWritten := by
  cases document with
  | map entries =>
    have shortKind : (Entries.partOrLegacy entries "kind" "type").hasOverlong = false :=
      Value.handsDown_short.partOrLegacy (Value.handsDown_short.hold short) "kind" "type"
    simp only [readValidationRule, partEntries, Result.ok_bind] at read
    split at read
    · cases read
    · obtain ⟨kind, recognised, same⟩ := Result.bind_eq_ok_iff.mp read
      cases same
      unfold Recognised.ruleKind at recognised
      split at recognised
      · cases recognised
      · split at recognised
        · cases recognised
          trivial
        · cases recognised
          exact shortKind
  | _ => cases read

/-- A condition that was read has an operator that is known or can be written. -/
theorem isWritten_of_readConditionalRule {document : Value} (short : document.hasOverlong = false)
    {rule : ConditionalRule} (read : readConditionalRule document = .ok rule) :
    rule.operator.IsWritten := by
  cases document with
  | map entries =>
    have shortOperator :
        ((lookup "operator" entries).getD (.str Operator.equals.wire)).hasOverlong = false := by
      cases found : lookup "operator" entries with
      | none => rfl
      | some value => exact Value.handsDown_short.hold short "operator" value found
    simp only [readConditionalRule, partEntries, Result.ok_bind] at read
    split at read
    · cases read
    · obtain ⟨trigger, -, same⟩ := Result.bind_eq_ok_iff.mp read
      cases same
      unfold Recognised.operator
      simp only
      split
      · trivial
      · exact shortOperator
  | _ => cases read

/-- A field that was read can be inspected at any place if its patterns can be read or are none. -/
theorem isInspectable_of_readField {supply : Supply} {document : Value} {placed : PlacedField}
    (read : (readField supply document).1 = .ok placed)
    (patterns : ∀ rule, .proper rule ∈ placed.validationRules → rule.PatternReads) (position : Nat) :
    (placed.field.withOrder position).IsInspectable := by
  obtain ⟨entries, type, id, rest, rfl, -, contentRead⟩ := readField_eq_ok read
  obtain ⟨rules, conditions, documents, areRules, areConditions, -, -, conditionsRead⟩ :=
    rules_of_readContent contentRead
  refine ⟨⟨position, rfl⟩, fun entry isEntry => ?_, fun entry isEntry => ?_⟩
  · obtain ⟨rule, inRules, rfl⟩ := List.mem_map.mp (areRules ▸ isEntry)
    exact ⟨rule, rfl, patterns rule isEntry⟩
  · obtain ⟨rule, inConditions, rfl⟩ := List.mem_map.mp (areConditions ▸ isEntry)
    obtain ⟨ruleDocument, -, isRead⟩ := conditionsRead rule inConditions
    exact ⟨rule, rfl, (isCanonical_of_readConditionalRule isRead).trigger⟩

/-- If it was read from a document without overlong integers, it stops an analysis only if its label
is no text. -/
theorem notText_of_readField {supply : Supply} {document : Value}
    (short : document.hasOverlong = false) {placed : PlacedField}
    (read : (readField supply document).1 = .ok placed) {position : Nat} {fault : Fault}
    (stops : (placed.field.withOrder position).Stops fault) : ¬placed.label.IsText := by
  obtain ⟨entries, type, id, rest, rfl, -, contentRead⟩ := readField_eq_ok read
  obtain ⟨rules, conditions, documents, areRules, areConditions, rulesRead, opened, conditionsRead⟩ :=
    rules_of_readContent contentRead
  have shortEntries := Value.handsDown_short.hold short
  cases stops with
  | label notText => exact notText
  | @kind rule isRule unwritten =>
    obtain ⟨_, inRules, ⟨⟩⟩ := List.mem_map.mp (areRules ▸ isRule)
    obtain ⟨ruleDocument, isDocument, isRead⟩ := rulesRead rule inRules
    have shortRule := short_of_validationRuleDocuments shortEntries _ isDocument
    exact absurd (isWritten_of_readValidationRule shortRule isRead) unwritten
  | @operator rule isCondition unwritten =>
    obtain ⟨_, inConditions, ⟨⟩⟩ := List.mem_map.mp (areConditions ▸ isCondition)
    obtain ⟨ruleDocument, isDocument, isRead⟩ := conditionsRead rule inConditions
    have shortCondition := short_of_partItems
      (Value.handsDown_short.part shortEntries "conditionalRules") opened _ isDocument
    exact absurd (isWritten_of_readConditionalRule shortCondition isRead) unwritten

/-- The fields of a form that was read can be inspected. -/
theorem isInspectable_of_readForm {strict : Bool} {supply : Supply} {document : Value} {form : Form}
    (read : (readForm strict supply document).result = .ok form) :
    ∀ field ∈ form.fields, field.IsInspectable := by
  intro field member
  have patterns := patternsRead_of_readForm read field member
  obtain ⟨_, _, -, _, -, _, placed, position, -, isRead, rfl⟩ :=
    exists_of_mem_fields_readForm read member
  exact isInspectable_of_readField isRead patterns position

/-- They stop an analysis only by labels that are no texts, if the form was read from a document
without overlong integers. -/
theorem notText_of_readForm {strict : Bool} {supply : Supply} {document : Value}
    (short : document.hasOverlong = false) {form : Form}
    (read : (readForm strict supply document).result = .ok form) {field : Field}
    (member : field ∈ form.fields) {fault : Fault} (stops : field.Stops fault) :
    ¬field.label.IsText := by
  obtain ⟨_, _, opened, entry, inDocuments, _, placed, position, -, isRead, rfl⟩ :=
    exists_of_mem_fields_readForm read member
  have shortEntry := (Value.handsDown_short.openForm short opened).2 entry inDocuments
  exact notText_of_readField shortEntry isRead stops

/-- A form that was read has a report exactly if none of its fields stops the analysis. -/
theorem exists_analyze_iff {strict : Bool} {supply : Supply} {document : Value} {form : Form}
    (read : (readForm strict supply document).result = .ok form) :
    (∃ report, form.analyze = .ok report) ↔
      ∀ field ∈ form.fields, ∀ fault, ¬field.Stops fault := by
  constructor
  · rintro ⟨report, analyzed⟩ field member fault
    exact not_stops_of_analyzeFields analyzed member fault
  · intro noneStops
    cases analyzed : form.analyze with
    | ok report => exact ⟨report, rfl⟩
    | error fault =>
      obtain ⟨field, member, stops⟩ :=
        failsOnly_analyzeFields form.title (isInspectable_of_readForm read) fault analyzed
      exact absurd stops (noneStops field member fault)

/-- A form has a report exactly if its labels are texts, if it was read from a document without
overlong integers. -/
theorem exists_analyze_iff_of_short {strict : Bool} {supply : Supply} {document : Value}
    (short : document.hasOverlong = false) {form : Form}
    (read : (readForm strict supply document).result = .ok form) :
    (∃ report, form.analyze = .ok report) ↔ ∀ field ∈ form.fields, field.label.IsText := by
  rw [exists_analyze_iff read]
  refine forall₂_congr fun field member => ⟨fun noneStops => ?_, fun isText fault stops => ?_⟩
  · exact Classical.byContradiction fun notText => noneStops _ (.label notText)
  · exact notText_of_readForm short read member stops isText

end FormEngine
