import FormEngine.Document.Format
import FormEngine.Proofs.Document.Normal
import FormEngine.Proofs.Document.Sameness
import FormEngine.Proofs.Json.Writing
import FormEngine.Proofs.Value.SortKeys
import FormEngine.Yaml.Library

/-!
# Forms survive export and import

A well-formed form is read back from its document as it was. In JSON the entries of maps come back
in ascending order of their keys, so the form that is read equals the form that was written without
being the same data. Both need times whose offsets can be told from their text: an offset of less
than a second is written, but read as none at all.
-/

namespace FormEngine

/-- Where the entries of a form are, its times are found. -/
theorem times_of_openForm {form : Form} {document : Value} (written : form.toDocument = .ok document)
    {strict : Bool} {entries : Entries} {documents : List Value}
    (opened : openForm strict document = .ok (entries, documents)) :
    entries.partOrLegacy "created" "createdAt" = timeToDocument form.created ∧
      entries.partOrLegacy "updated" "updatedAt" = timeToDocument form.updated := by
  simp only [Form.toDocument, Result.bind_eq_ok_iff, Result.pure_eq_ok, Except.ok.injEq] at written
  obtain ⟨fields, -, rfl⟩ := written
  simp only [Value.record, List.map_cons, List.map_nil, openForm, unwrap, lookup, String.reduceEq,
    if_true, if_false, Entries.part, Option.getD_some, Except.ok.injEq, Prod.mk.injEq] at opened
  obtain ⟨rfl, -⟩ := opened
  simp [Entries.partOrLegacy, lookup]

/-- A form that has the times which are read of its document has legible times. -/
theorem timesLegible_of_readForm {form read : Form} (wellFormed : form.WellFormed)
    {document : Value} (written : form.toDocument = .ok document) {strict : Bool} {supply : Supply}
    (isRead : (readForm strict supply document).result = .ok read)
    (sameCreation : sameTime read.created form.created = true)
    (sameChange : sameTime read.updated form.updated = true) : form.TimesLegible := by
  obtain ⟨creation, isCreated⟩ := wellFormed.created
  obtain ⟨change, isUpdated⟩ := wellFormed.updated
  obtain ⟨entries, _, header, _, _, _, _, opened, headerRead, -, -, -, rfl, -⟩ :=
    readForm_eq_ok isRead
  obtain ⟨created, updated⟩ := times_of_openForm written opened
  rw [isCreated] at created
  rw [isUpdated] at updated
  simp only [readHeader, readTimes, created, updated, readTime?_timeToDocument,
    Result.bind_eq_ok_iff] at headerRead
  obtain ⟨_, ⟨_, ⟨⟩, _, ⟨⟩, sameTimes⟩, _, _, sameHeader⟩ := headerRead
  cases sameTimes
  cases sameHeader
  rw [isCreated] at sameCreation
  rw [isUpdated] at sameChange
  constructor
  · intro moment present
    cases isCreated.symm.trans present
    exact DateTime.isLegible_of_same_asRead sameCreation
  · intro moment present
    cases isUpdated.symm.trans present
    exact DateTime.isLegible_of_same_asRead sameChange

/-- Forms that are the same have the same times. -/
theorem Form.sameTimes {nanSame : Bool} {left right : Form} (same : left.same nanSame right = true) :
    sameTime left.created right.created = true ∧ sameTime left.updated right.updated = true := by
  simp only [Form.same, Bool.and_eq_true] at same
  exact ⟨same.1.2, same.2⟩

/-- The document of a well-formed form is read back to the form exactly if the times of the form are
legible, and otherwise never to an equal one. So is the text of the form in JSON, to an equal form,
provided that JSON gives back the document with sorted keys. Patterns that are written as maps
change with the order of their keys, so they must be readable in the new order, too. -/
theorem Form.WellFormed.roundTrip {form : Form} (wellFormed : form.WellFormed)
    (yaml : YamlLibrary) :
    ∃ document, form.toDocument = .ok document ∧
      (form.TimesLegible ↔ ∀ strict supply, (readForm strict supply document).result = .ok form) ∧
      (∀ nanSame strict supply read, (readForm strict supply document).result = .ok read →
        read.same nanSame form = true → form.TimesLegible) ∧
      (form.TimesLegible → form.HasTreeParts → (form.mapValues Value.sortKeys).PatternsRead →
        document.IsFiniteTree ∧
          (document.hasOverlong = false → ∃ text, form.write .json yaml = .ok text) ∧
          ∀ text, form.write .json yaml = .ok text → Json.read text = some document.sortKeys →
            ∀ strict supply, ∃ read,
              (importForm .json yaml strict supply (.str text)).result = .ok read ∧
                read.same false form = true) := by
  obtain ⟨document, written⟩ := wellFormed.isReadable.written
  refine ⟨document, written, ⟨fun legible strict supply => ?_, fun comesBack => ?_⟩,
    fun nanSame strict supply read isRead same => ?_, fun legible trees patterns => ?_⟩
  · have read := readForm_toDocument .id (wellFormed.isCanonical legible)
      (by simpa using wellFormed.patterns) written strict supply
    rw [id_eq, Form.mapValues_id] at read
    rw [read]
  · exact timesLegible_of_readForm wellFormed written
      (comesBack false ⟨.counting "f", .still .startOf2024⟩) (sameTime_self _) (sameTime_self _)
  · obtain ⟨sameCreation, sameChange⟩ := Form.sameTimes same
    exact timesLegible_of_readForm wellFormed written isRead sameCreation sameChange
  · have tree := wellFormed.isFiniteTree trees written
    refine ⟨tree, fun short => ?_, fun text _ inverts strict supply => ?_⟩
    · obtain ⟨text, textWritten⟩ := Json.write_eq_ok tree short
      exact ⟨text, by simp [Form.write, written, Format.write, textWritten]⟩
    · have opened : Format.read .json yaml (.str text) = .ok document.sortKeys := by
        simp [Format.read, inverts]
      have read := readForm_toDocument Value.isRearrangement_sortKeys
        (wellFormed.isCanonical legible) patterns written strict supply
      refine ⟨form.mapValues Value.sortKeys, ?_, ?_⟩
      · rw [importForm, opened]
        simp only [read]
      · exact wellFormed.same_mapValues Value.isRearrangement_sortKeys trees

/-- A form with one field. -/
def Form.ofField (created : DateTime) (field : Field) : Form where
  id := "form"
  created := some created
  updated := some .startOf2024
  fields := [field]

/-- A form with one field is well formed if the field is. -/
theorem Form.wellFormed_ofField (created : DateTime) {field : Field} (wellFormed : field.WellFormed)
    (order : field.order = .int 0)
    (patterns : ∀ rule, .proper rule ∈ field.validationRules → rule.PatternReads) :
    (Form.ofField created field).WellFormed where
  id := by simp [Form.ofField]
  title := ⟨defaultTitle, by decide, rfl⟩
  description := ⟨"", rfl⟩
  confirmation := ⟨defaultConfirmation, by decide, rfl⟩
  created := ⟨created, rfl⟩
  updated := ⟨.startOf2024, rfl⟩
  fields := fun _ member => by
    rw [List.mem_singleton.mp member]
    exact wellFormed
  distinct := List.nodup_singleton _
  placed := by
    intro position other found
    cases position with
    | zero =>
      cases found
      exact order
    | succ position => cases found
  patterns := fun _ member => by
    rw [List.mem_singleton.mp member]
    exact patterns

/-- The times of a form with one field are legible if the time of its creation is. -/
theorem Form.timesLegible_ofField {created : DateTime} (legible : created.IsLegible)
    (field : Field) : (Form.ofField created field).TimesLegible where
  created := fun _ present => by
    cases present
    exact legible
  updated := fun _ present => by
    cases present
    exact DateTime.isLegible_of_utc rfl

/-- A form with one field has trees for its other parts if the field has. -/
theorem Form.hasTreeParts_ofField (created : DateTime) {field : Field}
    (kinds : ∀ rule, .proper rule ∈ field.validationRules → rule.kind.IsTreeWord)
    (operators : ∀ rule, .proper rule ∈ field.conditionalRules → rule.operator.IsTreeWord) :
    (Form.ofField created field).HasTreeParts where
  redirect := .null
  kinds := fun _ member => by
    rw [List.mem_singleton.mp member]
    exact kinds
  operators := fun _ member => by
    rw [List.mem_singleton.mp member]
    exact operators

/-- A field that asks for a day, with a rule of a kind that is not known. -/
def dayField : Field where
  type := .date
  label := .str "Day"
  validationRules := [.proper { kind := .unknown (.str "weekday") }]
  defaultValue := .date DateTime.startOf2024.date
  id := "day"

theorem dayField_wellFormed : dayField.WellFormed where
  id := by decide
  label := ⟨"Day", rfl⟩
  placeholder := .null
  description := .null
  required := ⟨false, rfl⟩
  options := fun choice => by cases choice
  validationRules := ⟨[_], rfl, fun rule member => by
    rw [List.mem_singleton.mp member]
    exact ⟨⟨rfl, by simp, by decide⟩, .null, ⟨"", rfl⟩⟩⟩
  conditionalRules := ⟨[], rfl, by simp⟩
  defaultValue := .inr ⟨rfl, DateTime.startOf2024.date, rfl⟩

/-- A field with a pattern that is a map. It is no pattern as it stands, but asks for too many
repetitions when its keys are sorted. -/
def patternField : Field where
  type := .text
  label := .str "Code"
  validationRules := [.proper {
    kind := .known .pattern
    parameter := .record [("b", .str "**"), ("a", .str "x\x7b99999999999\x7d")] }]
  id := "code"

theorem patternField_wellFormed : patternField.WellFormed where
  id := by decide
  label := ⟨"Code", rfl⟩
  placeholder := .null
  description := .null
  required := ⟨false, rfl⟩
  options := fun choice => by cases choice
  validationRules := ⟨[_], rfl, fun rule member => by
    rw [List.mem_singleton.mp member]
    exact ⟨trivial, by simp, ⟨"", rfl⟩⟩⟩
  conditionalRules := ⟨[], rfl, by simp⟩
  defaultValue := .inl ⟨.null, fun isDate => by cases isDate⟩

/-- The text of a form whose characters are read as its document with sorted keys. -/
theorem Form.write_of_readChars (yaml : YamlLibrary) {form : Form} {document : Value}
    (written : form.toDocument = .ok document)
    (evaluated : (form.toDocument.toOption.bind fun document =>
      (Json.writeAt 0 document).toOption.bind Json.readChars) =
        form.toDocument.toOption.map Value.sortKeys) :
    ∃ text, form.write .json yaml = .ok text ∧ Json.read text = some document.sortKeys := by
  rw [written] at evaluated
  obtain ⟨text, textWritten, read⟩ := Json.read_of_readChars evaluated
  exact ⟨text, by simp [Form.write, written, Format.write, textWritten], read⟩

/-- A form with a day in it, created east of Greenwich, comes back from its document and from its
text. -/
theorem Form.WellFormed.roundTrip_dayField :
    let form := Form.ofField { DateTime.startOf2024 with offset := some ⟨3600000000, by decide⟩ }
      dayField
    ∃ document text, form.toDocument = .ok document ∧
      (readForm true ⟨.counting "f", .still .startOf2024⟩ document).result = .ok form ∧
      form.write .json Yaml.library = .ok text ∧
      ∃ read, (importForm .json Yaml.library true ⟨.counting "f", .still .startOf2024⟩
        (.str text)).result = .ok read ∧ read.same false form = true := by
  intro form
  have wellFormed : form.WellFormed :=
    Form.wellFormed_ofField _ dayField_wellFormed rfl fun rule member => by
      cases List.mem_singleton.mp member
      decide +kernel
  have legible : form.TimesLegible := Form.timesLegible_ofField (fun offset isOffset => by
    cases isOffset
    exact .inr (by decide)) dayField
  have trees : form.HasTreeParts := Form.hasTreeParts_ofField _
    (fun rule member => by
      cases List.mem_singleton.mp member
      exact .str "weekday")
    (fun rule member => by cases member)
  have patterns : (form.mapValues Value.sortKeys).PatternsRead := by
    intro field member rule isRule
    cases List.mem_singleton.mp member
    cases List.mem_singleton.mp isRule
    decide +kernel
  obtain ⟨document, written, comesBack, -, fromJson⟩ :=
    Form.WellFormed.roundTrip wellFormed Yaml.library
  obtain ⟨text, textWritten, inverts⟩ :=
    Form.write_of_readChars Yaml.library written (by decide +kernel)
  exact ⟨document, text, written, comesBack.mp legible _ _, textWritten,
    (fromJson legible trees patterns).2.2 text textWritten inverts _ _⟩

/-- Not every well-formed form comes back. An offset of half a millisecond is lost, and a pattern
that is a map may be refused once JSON has sorted its keys. -/
theorem Form.WellFormed.not_roundTrip :
    (¬∀ form : Form, form.WellFormed → ∀ strict supply, ∃ document read,
      form.toDocument = .ok document ∧
        (readForm strict supply document).result = .ok read ∧ read.same false form = true) ∧
    ¬∀ form : Form, form.WellFormed → form.TimesLegible → form.HasTreeParts →
      ∀ strict supply document text, form.toDocument = .ok document →
        form.write .json Yaml.library = .ok text → Json.read text = some document.sortKeys →
        ∃ read, (importForm .json Yaml.library strict supply (.str text)).result = .ok read ∧
          read.same false form = true := by
  constructor
  · intro all
    let form := Form.ofField { DateTime.startOf2024 with offset := some ⟨500, by decide⟩ } dayField
    have wellFormed : form.WellFormed :=
      Form.wellFormed_ofField _ dayField_wellFormed rfl fun rule member => by
        cases List.mem_singleton.mp member
        decide +kernel
    have lost : (form.toDocument >>= fun document =>
        (readForm true ⟨.counting "f", .still .startOf2024⟩ document).result).toOption.map
          (Form.same false · form) = some false := by
      decide +kernel
    obtain ⟨document, read, written, isRead, same⟩ := all form wellFormed true _
    rw [written, Result.ok_bind, isRead] at lost
    simp [Except.toOption, same] at lost
  · intro all
    let form := Form.ofField .startOf2024 patternField
    have wellFormed : form.WellFormed :=
      Form.wellFormed_ofField _ patternField_wellFormed rfl fun rule member => by
        cases List.mem_singleton.mp member
        decide +kernel
    have legible : form.TimesLegible :=
      Form.timesLegible_ofField (DateTime.isLegible_of_utc rfl) patternField
    have trees : form.HasTreeParts := Form.hasTreeParts_ofField _
      (fun rule member => by
        cases List.mem_singleton.mp member
        trivial)
      (fun rule member => by cases member)
    have refused : (form.toDocument >>= fun document =>
        (readForm true ⟨.counting "f", .still .startOf2024⟩ document.sortKeys).result).isOk =
          false := by
      decide +kernel
    obtain ⟨document, written⟩ := wellFormed.isReadable.written
    obtain ⟨text, textWritten, inverts⟩ :=
      Form.write_of_readChars Yaml.library written (by decide +kernel)
    obtain ⟨read, isRead, -⟩ :=
      all form wellFormed legible trees true _ document text written textWritten inverts
    have opened : Format.read .json Yaml.library (.str text) = .ok document.sortKeys := by
      simp [Format.read, inverts]
    rw [written, Result.ok_bind] at refused
    rw [importForm, opened] at isRead
    simp only at isRead
    rw [isRead] at refused
    cases refused

end FormEngine
