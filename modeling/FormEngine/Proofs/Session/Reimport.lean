import FormEngine.Proofs.Document.RoundTrip
import FormEngine.Proofs.Session.Editing
import FormEngine.Yaml.Library

/-!
# What a session exports, it imports

An editor may export its session at any time, in either format, and import the text again. The form
that comes back has everything of the form that was exported but for default values: on a date field
the text of a date comes back as the date, and elsewhere a date comes back as its text.
-/

namespace FormEngine

namespace Session

variable {ids : IdSource} {clock : Clock} {session : Session}

/-- A text that is opened as a document is imported as the form that is read of the document, which
becomes the form of the session and brings its fields along. -/
theorem importText_of_readForm {format : Value} {kind : Format}
    (isFormat : Format.ofValue format = .ok kind) {text document : Value}
    (opened : kind.read session.yaml text = .ok document) {strict : Bool} {form : Form}
    (read : (readForm strict session.supply document).result = .ok form) :
    (session.importText text format strict).result = .ok form ∧
      (session.importText text format strict).session.store.fields = form.fields ∧
      (session.importText text format strict).session.currentForm? = some form := by
  obtain ⟨distinct, placed⟩ := distinct_and_placed_of_readForm read
  have imported : importForm kind session.yaml strict session.supply text =
      readForm strict session.supply document := by
    rw [importForm, opened]
  let supplied := session.withSupply (readForm strict session.supply document).supply
  obtain ⟨after, loaded, stored, isCurrent⟩ := supplied.loadForm_of_placed placed distinct
  have step : (supplied.stepOf ((readForm strict session.supply document).result >>=
      supplied.loadForm)) = { result := .ok form, session := after } := by
    rw [read, Result.ok_bind, loaded, Session.stepOf]
  simp only [importText, isFormat, imported]
  rw [step]
  exact ⟨rfl, stored, isCurrent⟩

/-- The snapshot of a session that can be exported is a form that can be exported. -/
theorem IsExportable.snapshot (exportable : session.IsExportable ids clock)
    (named : ∀ index, ids.stream index ≠ "") :
    ∃ exported, session.snapshot.result = .ok exported ∧ exported.IsExportable ∧
      exported.toFormHeader.TimesStem clock := by
  obtain ⟨after, header, stem⟩ := exportable.ensureForm named
  exact ⟨_, rfl, ⟨header, after.store.fields, after.store.orderly.distinct,
    after.store.orderly.placed⟩, stem⟩

/-- Whatever an editor did, the form that it exports is written as a tree, which has a text in every
format unless it holds an overlong integer. If reading the text gives the tree back, but for the
order of keys in JSON, importing it succeeds. The form that comes back is the form of the session
from then on. All of it is as it was exported but the default values, if the clock shows legible
times; otherwise its times have lost what can not be read off their texts. -/
theorem Edited.reimports (named : ∀ index, ids.stream index ≠ "")
    (edited : Edited ids clock session) {format : Value} {kind : Format} (isFormat : Format.ofValue format = .ok kind) :
    ∃ exported document, session.snapshot.result = .ok exported ∧
      exported.toDocument = .ok document ∧ document.IsJson ∧
      (document.hasOverlong = false → ∃ text, (session.exportForm format).result = .ok text) ∧
      ∀ text, (session.exportForm format).result = .ok text →
        kind.read session.yaml (.str text) = .ok (kind.rearrange document) →
        ∃ imported, (session.reimport format).result = .ok imported ∧
          (session.reimport format).session.currentForm? = some imported ∧
          imported.toFormHeader = exported.toFormHeader.asRead ∧
          ((∀ index, (clock.times index).IsLegible) →
            imported.toFormHeader = exported.toFormHeader) ∧
          List.Forall₂ Field.AgreesWith imported.fields exported.fields := by
  obtain ⟨exported, taken, exportable, stem⟩ := (edited.isExportable named).snapshot named
  obtain ⟨document, written⟩ := exportable.isReadable.written
  have step : session.exportForm format =
      { result := exported.write kind session.yaml, session := session.snapshot.session } := by
    simp only [exportForm, isFormat, taken, Result.ok_bind]
  refine ⟨exported, document, taken, written, exportable.isJson written, fun short => ?_,
    fun text isText inverts => ?_⟩
  · rw [step]
    exact exportable.exists_write written short kind session.yaml
  · -- Exporting may have made the form, so the import goes on from the session after the snapshot.
    obtain ⟨imported, read, header, fields⟩ := exportable.readForm_toDocument kind.isRearrangement
      written true session.snapshot.session.supply
    rw [← session.yaml_snapshot] at inverts
    obtain ⟨result, -, isCurrent⟩ := importText_of_readForm isFormat inverts read
    have again : session.reimport format =
        session.snapshot.session.importText (.str text) format true := by
      rw [step] at isText
      simp only [reimport, step, isText]
    rw [again]
    exact ⟨imported, result, isCurrent, header,
      fun legible => header.trans (stem.asRead legible), fields⟩

/-- An editor makes a form for visitors to a desk. One of the calls is refused, and the desk has the
options that fields of its type begin with. -/
def deskCalls : List SessionCall := [
  .create (.str "Visit") (.str ""),
  .add (.str "text") [.label (.str "Name"), .required (.bool true), .validationRules
    (.entries [.proper ⟨.known .pattern, .str "[A-Z].*", .str "Begin with a capital"⟩])],
  .add (.str "select") [.label (.str "Desk"), .conditionalRules
    (.entries [.proper ⟨.str "f2", .known .notEmpty, .null⟩])],
  .update (.str "f9") [.label (.str "Guest")],
  .save,
  .update (.str "f3") [.placeholder (.str "Choose"), .defaultValue (.str "option2")]]

theorem isTyped_deskCalls :
    ∀ call ∈ deskCalls, ∀ session, SessionCall.IsTyped session call := by
  have pattern : ValidationRule.IsTyped
      ⟨.known .pattern, .str "[A-Z].*", .str "Begin with a capital"⟩ :=
    ⟨trivial, trivial, ⟨_, rfl⟩, by decide +kernel⟩
  have condition : ConditionalRule.IsTyped ⟨.str "f2", .known .notEmpty, .null⟩ :=
    ⟨⟨_, rfl⟩, trivial, trivial⟩
  have choice : (Value.str "option2").IsDefault := .inl (.str _)
  simp [deskCalls, SessionCall.IsTyped, Attribute.IsTyped, Listing.IsTyped, Entry.IsProper,
    pattern, condition, choice, Value.IsText, Value.IsHint]

/-- The form is imported as it was exported, in JSON, with the field that was changed since it was
saved. -/
theorem Edited.reimports_deskCalls :
    let session := (Session.new (.counting "f") (.still .startOf2024) Yaml.library).run deskCalls
    ∃ exported imported, session.snapshot.result = .ok exported ∧ exported.fieldIds = ["f2", "f3"] ∧
      (session.reimport (.str "json")).result = .ok imported ∧
      imported.toFormHeader = exported.toFormHeader ∧
      List.Forall₂ Field.AgreesWith imported.fields exported.fields := by
  intro session
  have named : ∀ index, (IdSource.counting "f").stream index ≠ "" := by
    intro index
    simp [IdSource.counting]
  have edited : Edited (.counting "f") (.still .startOf2024) session :=
    Edited.run (.new Yaml.library) isTyped_deskCalls
  have isFormat : Format.ofValue (.str "json") = .ok .json := rfl
  obtain ⟨exported, document, taken, written, -, -, comesBack⟩ :=
    Edited.reimports named edited isFormat
  obtain rfl := Except.ok.inj taken
  obtain ⟨text, textWritten, inverts⟩ :=
    Form.write_of_readChars session.yaml written (by decide +kernel)
  have opened : Format.read .json session.yaml (.str text) = .ok document.sortKeys := by
    simp [Format.read, inverts]
  obtain ⟨imported, isImported, -, -, header, fields⟩ := comesBack text textWritten opened
  exact ⟨_, imported, rfl, by decide +kernel, isImported,
    header fun _ => DateTime.isLegible_of_utc rfl, fields⟩

end Session

end FormEngine
