import FormEngine.Proofs.Document.Readable
import FormEngine.Proofs.Document.Tree
import FormEngine.Proofs.Repetition

/-!
# Reading gives canonical forms

A form that was read from a tree is canonical if the clock shows times that can be read off their
text: its times and default values, too, are what the next reading leaves as it is. So such a form,
written and read again, is the same form, with the same warnings and without a new id.
-/

namespace FormEngine

/-- A default value that was read is read again from its document. -/
theorem readDefault_readDefault {type : FieldType} {document : Value} (tree : document.IsJson) :
    readDefault type (readDefault type document).toDocument = readDefault type document := by
  by_cases isDate : ∃ text day, type = .date ∧ document = .str text ∧
      Iso.readDate? (Text.trimList text.toList) = some day
  · obtain ⟨text, day, rfl, rfl, read⟩ := isDate
    have first : readDefault .date (.str text) = .date day := by simp [readDefault, read]
    rw [first]
    simp [Value.toDocument, readDefault, Iso.trimList_dateText, Iso.readDate?_dateText]
  · have kept : readDefault type document = document := by
      unfold readDefault
      split
      next text =>
        split
        next day read => exact absurd ⟨text, day, rfl, rfl, read⟩ isDate
        next => rfl
      next => rfl
    rw [kept, tree.toDocument, kept]

/-- A field that was read from a tree is canonical. -/
theorem isCanonical_of_readField {supply : Supply} (names : supply.NamesFields) {document : Value}
    (tree : document.IsJson) {placed : PlacedField}
    (read : (readField supply document).1 = .ok placed) : placed.field.IsCanonical := by
  have readable := isReadable_of_readField names read
  obtain ⟨entries, type, _, _, rfl, -, contentRead⟩ := readField_eq_ok read
  have defaultValue : readDefault placed.type placed.defaultValue.toDocument =
      placed.defaultValue := by
    simp only [readContent, Result.bind_eq_ok_iff] at contentRead
    obtain ⟨_, -, _, -, _, -, _, -, _, -, _, -, same⟩ := contentRead
    cases same
    exact readDefault_readDefault (tree.holdTrees.part "defaultValue")
  exact { readable with defaultValue }

/-- The order of a field has no part in whether it is canonical. -/
theorem Field.IsCanonical.withOrder {field : Field} (canonical : field.IsCanonical)
    (position : Nat) : (field.withOrder position).IsCanonical :=
  { canonical with }

/-- A time that was read from a tree is legible. -/
theorem isLegible_of_readTime? {document : Value} (tree : document.IsJson)
    {time : Option DateTime} (read : readTime? document = .ok time) :
    ∀ moment, time = some moment → moment.IsLegible := by
  rintro moment rfl
  unfold readTime? at read
  split at read
  · cases read
  · cases read
  next present => cases tree
  · split at read
    next readMoment found =>
      cases read
      simp only [Option.bind_eq_some_iff] at found
      obtain ⟨text, -, textRead⟩ := found
      exact Iso.isLegible_of_readDateTime? textRead
    · cases read

/-- The times that were read from a tree are legible, or else the present time. -/
theorem isLegible_or_eq_of_readTimes {now created updated : DateTime} {entries : Entries}
    (trees : entries.HoldTrees fun _ => True)
    (read : readTimes now entries = .ok (created, updated)) :
    (created.IsLegible ∨ created = now) ∧ (updated.IsLegible ∨ updated = now) := by
  simp only [readTimes, Result.bind_eq_ok_iff] at read
  obtain ⟨creation, creationRead, change, changeRead, same⟩ := read
  cases same
  have fromTree : ∀ {time : Option DateTime} {key legacy : String} {otherwise : DateTime},
      readTime? (entries.partOrLegacy key legacy) = .ok time →
      (otherwise.IsLegible ∨ otherwise = now) →
      (time.getD otherwise).IsLegible ∨ time.getD otherwise = now := by
    intro time key legacy otherwise timeRead given
    cases time with
    | none => exact given
    | some moment =>
      exact .inl (isLegible_of_readTime? (trees.partOrLegacy key legacy) timeRead moment rfl)
  exact ⟨fromTree creationRead (.inr rfl), fromTree changeRead (fromTree creationRead (.inr rfl))⟩

/-- A form that was read from a tree has times that are legible or else the present time. -/
theorem times_of_readForm {strict : Bool} {supply : Supply} {document : Value}
    (tree : document.IsJson) {form : Form}
    (read : (readForm strict supply document).result = .ok form) :
    ∃ created updated, form.created = some created ∧ form.updated = some updated ∧
      (created.IsLegible ∨ created = supply.now.1) ∧
      (updated.IsLegible ∨ updated = supply.now.1) := by
  obtain ⟨entries, _, header, _, _, _, _, opened, headerRead, -, -, -, same, -⟩ :=
    readForm_eq_ok read
  simp only [readHeader, Result.bind_eq_ok_iff] at headerRead
  obtain ⟨⟨created, updated⟩, timesRead, _, -, sameHeader⟩ := headerRead
  cases sameHeader
  subst same
  exact ⟨created, updated, rfl, rfl,
    isLegible_or_eq_of_readTimes (Value.IsTree.handsDown.openForm tree opened).1 timesRead⟩

/-- A form that was read from a tree is canonical, and its patterns can be read or are none. -/
theorem isCanonical_of_readForm {strict : Bool} {supply : Supply} (names : supply.NamesFields)
    (present : ∀ index, (supply.clock.times index).IsLegible) {document : Value}
    (tree : document.IsJson) {form : Form}
    (read : (readForm strict supply document).result = .ok form) :
    form.IsCanonical ∧ form.PatternsRead := by
  obtain ⟨readable, patterns⟩ := isReadable_of_readForm names read
  obtain ⟨created, updated, isCreated, isUpdated, createdLegible, updatedLegible⟩ :=
    times_of_readForm tree read
  have now : supply.now.1.IsLegible := present _
  refine ⟨{ readable with
    created := ⟨created, isCreated, createdLegible.elim id (· ▸ now)⟩
    updated := ⟨updated, isUpdated, updatedLegible.elim id (· ▸ now)⟩
    fields := fun field member => ⟨?_, (readable.fields field member).2⟩ }, patterns⟩
  obtain ⟨_, _, opened, entry, inDocuments, drawn, _, position, same, isRead, rfl⟩ :=
    exists_of_mem_fields_readForm read member
  exact (isCanonical_of_readField (same.namesFields names)
    ((Value.IsTree.handsDown.openForm tree opened).2 entry inDocuments) isRead).withOrder position

/-- The warnings of arranged fields are those of the fields as they were read, in another order. -/
theorem warnings_arrange (fields : List PlacedField) :
    ∃ sorted : List PlacedField, sorted.Perm fields ∧
      ((arrange fields).flatMap fun field =>
        (checkPatterns field.id field.validationRules).warnings) = sorted.flatMap (·.warnings) := by
  refine ⟨fields.mergeSort fun left right => left.position ≤ right.position,
    List.mergeSort_perm fields _, ?_⟩
  have numbered : ∀ fields : List Field,
      ((renumber fields).flatMap fun field =>
        (checkPatterns field.id field.validationRules).warnings) =
      fields.flatMap fun field => (checkPatterns field.id field.validationRules).warnings := by
    intro fields
    rw [List.flatMap_def, List.flatMap_def]
    congr 1
    apply List.ext_getElem?
    intro position
    simp [renumber, Field.withOrder, Function.comp_def]
  rw [arrange, numbered, List.flatMap_map]
  rfl

/-- A warning names the field whose pattern it is about. -/
theorem fieldId_of_mem_warnings {fieldId : String} {rules : List (Entry ValidationRule)}
    {warning : PatternWarning} (member : warning ∈ (checkPatterns fieldId rules).warnings) :
    warning.fieldId = fieldId := by
  induction rules with
  | nil => cases member
  | cons entry rest inductionHypothesis =>
    cases entry with
    | stray value => exact inductionHypothesis member
    | proper rule =>
      simp only [checkPatterns] at member
      split at member
      · rcases List.mem_append.mp member with first | later
        · rw [List.mem_singleton.mp first]
        · exact inductionHypothesis later
      · cases member
      · exact inductionHypothesis member

/-- The warnings about one field are those of the fields with its id. -/
theorem filter_warnings (fields : List PlacedField) (id : String) :
    (fields.flatMap (·.warnings)).filter (·.fieldId == id) =
      (fields.filter (·.id == id)).flatMap (·.warnings) := by
  induction fields with
  | nil => rfl
  | cons field rest inductionHypothesis =>
    rw [List.flatMap_cons, List.filter_append, inductionHypothesis]
    by_cases same : field.id = id
    · have all : field.warnings.filter (·.fieldId == id) = field.warnings := by
        rw [List.filter_eq_self]
        intro warning member
        simpa [same] using fieldId_of_mem_warnings member
      rw [all, List.filter_cons_of_pos (by simpa using same), List.flatMap_cons]
    · have none : field.warnings.filter (·.fieldId == id) = [] := by
        rw [List.filter_eq_nil_iff]
        intro warning member
        simpa [fieldId_of_mem_warnings member] using same
      rw [none, List.filter_cons_of_neg (by simpa using same), List.nil_append]

/-- Of fields with distinct ids at most one has a given id, so the order of the fields does not
matter to what is said about it. -/
theorem filter_id_of_perm {fields others : List PlacedField} (permuted : others.Perm fields)
    (distinct : (fields.map (·.id)).Nodup) (id : String) :
    others.filter (·.id == id) = fields.filter (·.id == id) := by
  by_cases named : ∃ field ∈ fields, field.id = id
  · obtain ⟨field, member, rfl⟩ := named
    have distinctToo : (others.map (·.id)).Nodup := (permuted.map (·.id)).nodup_iff.mpr distinct
    rw [filter_key_of_mem distinct member, filter_key_of_mem distinctToo (permuted.mem_iff.mpr member)]
  · have unnamed : fields.filter (·.id == id) = [] := by
      simpa [List.filter_eq_nil_iff] using named
    have filtered := permuted.filter (·.id == id)
    rw [unnamed] at filtered ⊢
    exact filtered.eq_nil

/-- A form that was read from a tree, written and read again is the same form. No id is drawn, and
the warnings are the same but for the order of the fields. The clock may show any times whose text
tells their offset, as that of a time in Coordinated Universal Time does. -/
theorem readForm_normalises {strict : Bool} {supply : Supply} (names : supply.NamesFields)
    (present : ∀ index, (supply.clock.times index).IsLegible) {document : Value}
    (tree : document.IsJson) {form : Form}
    (read : (readForm strict supply document).result = .ok form) :
    ∃ written, form.toDocument = .ok written ∧ ∀ (again : Bool) (later : Supply),
      (readForm again later written).result = .ok form ∧
      (readForm again later written).supply.ids = later.ids ∧
      (readForm again later written).warnings.Perm (readForm strict supply document).warnings ∧
      ∀ id, (readForm again later written).warnings.filter (·.fieldId == id) =
        (readForm strict supply document).warnings.filter (·.fieldId == id) := by
  obtain ⟨canonical, patterns⟩ := isCanonical_of_readForm names present tree read
  obtain ⟨_, _, _, _, _, fields, _, -, -, -, -, passed, same, warnings⟩ := readForm_eq_ok read
  obtain ⟨distinct, -, -⟩ := result_checkFields_eq_ok_iff.mp passed
  obtain ⟨sorted, permuted, arranged⟩ := warnings_arrange fields
  obtain ⟨written, isWritten⟩ := canonical.isReadable.written
  refine ⟨written, isWritten, fun again later => ?_⟩
  have reread := readForm_toDocument .id canonical (by simpa using patterns) isWritten again later
  have rewarned : form.patternWarnings = sorted.flatMap (·.warnings) := by
    rw [← arranged, Form.patternWarnings, same]
  rw [id_eq, Form.mapValues_id] at reread
  rw [reread, warnings, warnings_checkFields passed, rewarned]
  refine ⟨rfl, rfl, permuted.flatMap_right _, fun id => ?_⟩
  rw [filter_warnings, filter_warnings, filter_id_of_perm permuted distinct]

/-- A wrapped document in an older spelling. Its form has a number for an id, and the fields beside
it have a number for a label, a text for a position and a pattern that is none. -/
def olderDocument : Value :=
  .record [
    ("fields", .list [.record [
      ("type", .str "text"),
      ("label", .int 7),
      ("order", .str "4"),
      ("validation", .list [.record [("type", .str "pattern"), ("value", .str "(")]])]]),
    ("form", .record [("id", .int 3)])]

/-- The older document is normalised: the form that it gives is the form that its own document
gives. -/
theorem readForm_normalises_older :
    ∃ form written,
      (readForm false ⟨.counting "f", .still .startOf2024⟩ olderDocument).result = .ok form ∧
        form.toDocument = .ok written ∧
        (readForm true ⟨.counting "g", .still .startOf2024⟩ written).result = .ok form := by
  have reads : (readForm false ⟨.counting "f", .still .startOf2024⟩ olderDocument).result.isOk =
      true := by
    decide +kernel
  obtain ⟨form, read⟩ := Result.exists_of_isOk reads
  obtain ⟨written, isWritten, again⟩ := readForm_normalises
    (fun index => by simp [IdSource.counting]) (fun _ => DateTime.isLegible_of_utc rfl)
    (by simp [olderDocument]) read
  exact ⟨form, written, read, isWritten, (again _ _).1⟩

end FormEngine
