import FormEngine.Proofs.Document.Analysable
import FormEngine.Proofs.Json.Reading

/-!
# Which imported forms can be diagnosed

The importer passes on any label that counts, and the analysis asks for a text. So a form that was
read from JSON has a report exactly if no field of its document has a label that counts and is no
text. Besides, only documents that did not come from JSON stop the analysis, by unknown kinds and
operators that can not be written.
-/

namespace FormEngine

/-- The label that the document of a field gives, or an empty text in place of none. -/
def labelGiven : Value → Value
  | .map entries => (Entries.part entries "label").orElse (.str "")
  | _ => .str ""

/-- A field has the label that its document gives. -/
theorem label_of_readField {supply : Supply} {document : Value} {placed : PlacedField}
    (read : (readField supply document).1 = .ok placed) : placed.label = labelGiven document := by
  obtain ⟨entries, type, id, rest, rfl, -, contentRead⟩ := readField_eq_ok read
  simp only [readContent, Result.bind_eq_ok_iff] at contentRead
  obtain ⟨_, -, _, -, _, -, _, -, _, -, _, -, same⟩ := contentRead
  obtain rfl := Except.ok.inj same
  rfl

/-- So do fields, one after the other. -/
theorem labels_of_readFields {documents : List Value} {supply : Supply} {index : Nat}
    {fields : List PlacedField} (read : (readFields supply index documents).1 = .ok fields) :
    fields.map (·.label) = documents.map labelGiven := by
  have each := forall₂_readFields read
  clear read
  induction each with
  | nil => rfl
  | cons first _ inductionHypothesis =>
    obtain ⟨drawn, -, isRead⟩ := first
    rw [List.map_cons, List.map_cons, label_of_readField isRead, inductionHypothesis]

/-- Arranging fields permutes their labels. -/
theorem map_label_arrange (fields : List PlacedField) :
    ((arrange fields).map (·.label)).Perm (fields.map (·.label)) := by
  have renumbered (fields : List Field) :
      (renumber fields).map (·.label) = fields.map (·.label) := by
    apply List.ext_getElem?
    intro position
    simp [renumber, Field.withOrder, Function.comp_def]
  rw [arrange, renumbered, List.map_map]
  exact (List.mergeSort_perm fields _).map _

/-- The labels of a form are those that the documents of its fields give, in another order. -/
theorem labels_of_readForm {strict : Bool} {supply : Supply} {document : Value} {form : Form}
    (read : (readForm strict supply document).result = .ok form) {entries : Entries}
    {documents : List Value} (opened : openForm strict document = .ok (entries, documents)) :
    (form.fields.map (·.label)).Perm (documents.map labelGiven) := by
  obtain ⟨_, _, _, _, _, fields, _, openedToo, -, -, fieldsRead, -, rfl, -⟩ := readForm_eq_ok read
  obtain ⟨rfl, rfl⟩ := Prod.mk.inj (Except.ok.inj (opened.symm.trans openedToo))
  rw [← labels_of_readFields (congrArg Prod.fst fieldsRead)]
  exact map_label_arrange fields

/-- A form that was read has a report exactly if none of its fields stops the analysis: if it has
none, a field is the reason, by a label that is no text, or by an unknown kind or operator that can
not be written. If the form was read from JSON, or from any document without overlong integers, it
has a report exactly if its labels are texts, and so exactly if every label that the documents of its
fields give is one. -/
theorem analyze_of_readForm {strict : Bool} {supply : Supply} {document : Value} {form : Form}
    (read : (readForm strict supply document).result = .ok form) :
    ((∃ report, form.analyze = .ok report) ↔
      ∀ field ∈ form.fields, ∀ fault, ¬field.Stops fault) ∧
    (∀ fault, form.analyze = .error fault → ∃ field ∈ form.fields, field.Stops fault) ∧
    ((document.hasOverlong = false ∨ ∃ text, Json.read text = some document) →
      ((∃ report, form.analyze = .ok report) ↔ ∀ field ∈ form.fields, field.label.IsText) ∧
      ∀ entries documents, openForm strict document = .ok (entries, documents) →
        ((∃ report, form.analyze = .ok report) ↔
          ∀ fieldDocument ∈ documents, (labelGiven fieldDocument).IsText)) := by
  refine ⟨exists_analyze_iff read,
    failsOnly_analyzeFields form.title (isInspectable_of_readForm read), fun origin => ?_⟩
  have short : document.hasOverlong = false :=
    origin.elim id fun ⟨text, given⟩ => Json.hasOverlong_of_read given
  have byLabels := exists_analyze_iff_of_short short read
  refine ⟨byLabels, fun entries documents opened => byLabels.trans ?_⟩
  have labels := labels_of_readForm read opened
  calc (∀ field ∈ form.fields, field.label.IsText)
      ↔ ∀ label ∈ form.fields.map (·.label), label.IsText := List.forall_mem_map.symm
    _ ↔ ∀ label ∈ documents.map labelGiven, label.IsText := by simp only [labels.mem_iff]
    _ ↔ ∀ fieldDocument ∈ documents, (labelGiven fieldDocument).IsText := List.forall_mem_map

/-- A document with a field whose label is a number. -/
def numberedLabel : Value :=
  .record [("fields", .list [.record [("type", .str "text"), ("label", .int 5)]])]

/-- It is read, and the form that is read has no report. -/
theorem analyze_of_readForm_numberedLabel :
    ∃ form, (readForm true ⟨.counting "f", .still .startOf2024⟩ numberedLabel).result = .ok form ∧
      ¬∃ report, form.analyze = .ok report := by
  obtain ⟨form, read⟩ : ∃ form,
      (readForm true ⟨.counting "f", .still .startOf2024⟩ numberedLabel).result = .ok form :=
    Result.exists_of_isOk (by decide +kernel)
  obtain ⟨-, -, byLabels⟩ := analyze_of_readForm read
  obtain ⟨-, byDocuments⟩ := byLabels (.inl (by decide +kernel))
  refine ⟨form, read, fun reported => ?_⟩
  obtain ⟨text, isText⟩ := (byDocuments _ _ rfl).mp reported _ (.head _)
  cases isText

end FormEngine
