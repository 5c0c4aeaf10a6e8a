import FormEngine.Proofs.Document.Canonical
import FormEngine.Proofs.Document.Checks
import FormEngine.Proofs.Field.Vocabulary
import FormEngine.Proofs.Value.Spelling

/-!
# Reading what was written

The document of a canonical form is read back to the form, and a rearranged document to the form
with its values rearranged. Every part finds under the first of its names what was written there, so
no older name, no default and no new id is asked for.
-/

namespace FormEngine

section Rearranged

variable {rearrange : Value → Value} (rearranges : Value.IsRearrangement rearrange)
include rearranges

/-- A rule kind is recognised by what stands for it in documents. -/
theorem ruleKind_kindWire {kind : Recognised RuleKind} (canonical : kind.IsKind) :
    Recognised.ruleKind (rearrange kind.kindWire) = .ok (kind.mapRaw rearrange) := by
  cases kind with
  | known kind =>
    rw [Recognised.kindWire, rearranges.str]
    simp [Recognised.ruleKind, Value.unkeyable?, Value.text?, RuleKind.ofWire?_wire,
      Recognised.mapRaw]
  | unknown raw =>
    obtain ⟨keyable, -, unnamed⟩ := canonical
    rw [Recognised.kindWire, Recognised.mapRaw, rearranges.keyable keyable]
    simp [Recognised.ruleKind, keyable, unnamed]

/-- What stands for a rule kind in documents is something. -/
theorem kindWire_ne_null {kind : Recognised RuleKind} (canonical : kind.IsKind) :
    rearrange kind.kindWire ≠ .null := by
  apply rearranges.ne_null
  cases kind with
  | known kind => simp [Recognised.kindWire]
  | unknown raw => exact canonical.2.1

/-- An operator is recognised by what stands for it in documents. -/
theorem operator_operatorWire {operator : Recognised Operator} (canonical : operator.IsOperator) :
    Recognised.operator (rearrange operator.operatorWire) = operator.mapRaw rearrange := by
  cases operator with
  | known operator =>
    rw [Recognised.operatorWire, rearranges.str]
    simp [Recognised.operator, Value.text?, Operator.ofWire?_wire, Recognised.mapRaw]
  | unknown raw =>
    have unnamed : (rearrange raw).text?.bind Operator.ofWire? = none := by
      rw [rearranges.text?]
      exact canonical
    simp [Recognised.operatorWire, Recognised.operator, unnamed, Recognised.mapRaw]

/-- A wording stands for itself, rearranged or not. -/
theorem orElse_wording {value : Value} (wording : value.IsWording) :
    (rearrange value).orElse (.str "") = rearrange value := by
  rcases wording with counts | rfl
  · simp [Value.orElse, rearranges.truthy, counts]
  · simp [Value.orElse, rearranges.str]

/-- An option is read from its document. -/
theorem readChoice_toDocument (choice : Choice) :
    readChoice (rearrange choice.toDocument) = .ok choice := by
  obtain ⟨entries, same, given, -⟩ := rearranges.record
    [("label", .str choice.label), ("value", .str choice.value)] (by simp)
  simp only [List.forall_mem_cons] at given
  obtain ⟨label, value, -⟩ := given
  rw [Choice.toDocument, same]
  simp [readChoice, Entries.partOrLegacy, label, value, rearranges.str]

/-- A validation rule is read from its document. -/
theorem readValidationRule_toDocument {rule : ValidationRule} (canonical : rule.IsCanonical) :
    readValidationRule (rearrange rule.toDocument) = .ok (rule.mapValues rearrange) := by
  obtain ⟨entries, same, given, -⟩ := rearranges.record
    [("kind", rule.kind.kindWire), ("parameter", rule.parameter), ("message", rule.message)]
    (by simp)
  simp only [List.forall_mem_cons] at given
  obtain ⟨kind, parameter, message, -⟩ := given
  rw [ValidationRule.toDocument, same]
  simp [readValidationRule, partEntries, Entries.partOrLegacy, Entries.part, kind, parameter,
    message, kindWire_ne_null rearranges canonical.kind,
    ruleKind_kindWire rearranges canonical.kind, orElse_wording rearranges canonical.message,
    ValidationRule.mapValues]

/-- A conditional rule is read from its document. -/
theorem readConditionalRule_toDocument {rule : ConditionalRule} (canonical : rule.IsCanonical) :
    readConditionalRule (rearrange rule.toDocument) = .ok (rule.mapValues rearrange) := by
  obtain ⟨entries, same, given, -⟩ := rearranges.record
    [("triggerFieldId", rule.trigger), ("operator", rule.operator.operatorWire),
      ("comparisonValue", rule.comparison)] (by simp)
  obtain ⟨text, isText⟩ := canonical.trigger
  simp only [List.forall_mem_cons] at given
  obtain ⟨trigger, operator, comparison, -⟩ := given
  rw [isText, rearranges.str] at trigger
  rw [ConditionalRule.toDocument, same]
  simp [readConditionalRule, partEntries, Entries.partOrLegacy, trigger, operator, comparison,
    operator_operatorWire rearranges canonical.operator, ConditionalRule.mapValues, isText,
    rearranges.str]

/-- A default value is read from its document. -/
theorem readDefault_toDocument {type : FieldType} {value : Value}
    (canonical : readDefault type value.toDocument = value) :
    readDefault type (rearrange value.toDocument) = rearrange value := by
  cases value with
  | date day =>
    rw [Value.toDocument, rearranges.str, rearranges.plain (.date day) trivial]
    exact canonical
  | dateTime moment =>
    rw [Value.toDocument, rearranges.str, rearranges.plain (.dateTime moment) trivial]
    exact canonical
  | collection shape items =>
    simp [Value.toDocument, rearranges.collection, readDefault]
  | map entries =>
    obtain ⟨arranged, same, -⟩ := rearranges.map entries
    simp [Value.toDocument, same, readDefault]
  | _ =>
    simp only [Value.toDocument] at canonical ⊢
    rw [rearranges.plain]
    · exact canonical
    · trivial

/-- A canonical field is read as it is, but for the rearrangement of its values. -/
theorem Field.IsCanonical.reread_eq {field : Field} (canonical : field.IsCanonical) :
    field.reread rearrange = field.mapValues rearrange := by
  rw [Field.reread, readDefault_toDocument rearranges canonical.defaultValue]
  rfl

end Rearranged

/-- The field as documents hold it. -/
def Field.placed (field : Field) : PlacedField where
  toFieldContent := field.toFieldContent
  id := field.id
  position :=
    match field.order with
    | .int position => position
    | _ => 0

/-- A field whose order is an integer is not changed by being held in a document. -/
theorem Field.field_placed {field : Field} {position : Int} (order : field.order = .int position) :
    field.placed.field = field := by
  cases field
  cases order
  rfl

/-- The parts of a field whose rules are all rules. -/
def Field.parts (field : Field) (rules : List ValidationRule) (conditions : List ConditionalRule) :
    List (String × Value) := [
  ("id", .str field.id),
  ("type", .str field.type.wire),
  ("label", field.label),
  ("placeholder", field.placeholder),
  ("description", field.description),
  ("required", field.required),
  ("options", .list (field.options.map Choice.toDocument)),
  ("validationRules", .list (rules.map ValidationRule.toDocument)),
  ("conditionalRules", .list (conditions.map ConditionalRule.toDocument)),
  ("order", field.order),
  ("defaultValue", field.defaultValue.toDocument)]

/-- A field whose rules are all rules is written. -/
theorem Field.toDocument_eq {field : Field} {rules : List ValidationRule}
    {conditions : List ConditionalRule} (areRules : field.validationRules = rules.map .proper)
    (areConditions : field.conditionalRules = conditions.map .proper) :
    field.toDocument = .ok (.record (field.parts rules conditions)) := by
  have ruled : field.validationRules.mapM Entry.ruleOf = .ok (rules.map fun rule => rule) := by
    rw [areRules]
    exact Result.mapM_map_eq_ok fun _ _ => rfl
  have conditioned : field.conditionalRules.mapM Entry.conditionOf =
      .ok (conditions.map fun rule => rule) := by
    rw [areConditions]
    exact Result.mapM_map_eq_ok fun _ _ => rfl
  simp [Field.toDocument, ruled, conditioned, Field.parts]

/-- A list has its items. -/
theorem partItems_list (items : List Value) : partItems (.list items) = .ok items := by
  cases items with
  | nil => rfl
  | cons item rest => rfl

/-- The content of a field is read from entries that hold its parts rearranged. -/
theorem readContent_parts {rearrange : Value → Value}
    (rearranges : Value.IsRearrangement rearrange) {field : Field} (readable : field.IsReadable)
    {rules : List ValidationRule} {conditions : List ConditionalRule}
    (areRules : field.validationRules = rules.map .proper)
    (rulesCanonical : ∀ rule ∈ rules, rule.IsCanonical)
    (areConditions : field.conditionalRules = conditions.map .proper)
    (conditionsCanonical : ∀ rule ∈ conditions, rule.IsCanonical)
    {position : Int} (isPosition : field.order = .int position) {entries : Entries}
    (given : ∀ part ∈ field.parts rules conditions, lookup part.1 entries = some (rearrange part.2)) :
    readContent entries field.type field.id = .ok (field.reread rearrange).placed := by
  obtain ⟨flag, isFlag⟩ := readable.required
  have optionsRead : (field.options.map (rearrange ∘ Choice.toDocument)).mapM readChoice =
      .ok (field.options.map fun choice => choice) :=
    Result.mapM_map_eq_ok fun choice _ => readChoice_toDocument rearranges choice
  have rulesRead : (rules.map (rearrange ∘ ValidationRule.toDocument)).mapM readValidationRule =
      .ok (rules.map (.mapValues rearrange)) :=
    Result.mapM_map_eq_ok fun rule member =>
      readValidationRule_toDocument rearranges (rulesCanonical rule member)
  have conditionsRead :
      (conditions.map (rearrange ∘ ConditionalRule.toDocument)).mapM readConditionalRule =
      .ok (conditions.map (.mapValues rearrange)) :=
    Result.mapM_map_eq_ok fun rule member =>
      readConditionalRule_toDocument rearranges (conditionsCanonical rule member)
  have flagPlain : rearrange (.bool flag) = .bool flag := rearranges.plain _ trivial
  have orderPlain : rearrange (.int position) = .int position := rearranges.plain _ trivial
  simp only [Field.parts, List.forall_mem_cons] at given
  obtain ⟨-, -, label, placeholder, description, required, options, validationRules,
    conditionalRules, order, defaultValue, -⟩ := given
  rw [rearranges.collection, List.map_map] at options validationRules conditionalRules
  rw [isFlag, flagPlain] at required
  rw [isPosition, orderPlain] at order
  simp only [readContent, Entries.part, options, Option.getD_some, partItems_list, Result.ok_bind,
    optionsRead, validationRuleDocuments, Entries.partOrLegacy, validationRules, Option.some_or,
    rulesRead, conditionalRules, conditionsRead, order, readPosition, label, placeholder,
    description, required, defaultValue, orElse_wording rearranges readable.label]
  simp [Field.placed, Field.reread, Field.mapValues, areRules, areConditions, isFlag, isPosition, flagPlain,
    orderPlain, Value.truthy, Function.comp_def, Entry.mapValues]

/-- A field is read from its document, with its values rearranged as those of the document are. No
id is drawn. -/
theorem readField_toDocument {rearrange : Value → Value}
    (rearranges : Value.IsRearrangement rearrange) {field : Field} (readable : field.IsReadable)
    {position : Int} (isPosition : field.order = .int position) {document : Value}
    (written : field.toDocument = .ok document) (supply : Supply) :
    readField supply (rearrange document) = (.ok (field.reread rearrange).placed, supply) := by
  obtain ⟨rules, areRules, rulesCanonical⟩ := readable.validationRules
  obtain ⟨conditions, areConditions, conditionsCanonical⟩ := readable.conditionalRules
  rw [Field.toDocument_eq areRules areConditions] at written
  cases written
  obtain ⟨entries, same, given, -⟩ := rearranges.record (field.parts rules conditions)
    (by simp [Field.parts])
  have content := readContent_parts rearranges readable areRules rulesCanonical areConditions
    conditionsCanonical isPosition given
  simp only [Field.parts, List.forall_mem_cons, rearranges.str] at given
  obtain ⟨id, type, -⟩ := given
  have opened : openField (.map entries) = .ok (entries, field.type) := by
    simp [openField, type, FieldType.ofValue, Value.text?, FieldType.ofWire?_wire]
  have claimed : claimId entries supply = (.ok field.id, supply) := by
    simp [claimId, Entries.part, id, Value.truthy, readable.id]
  rw [same]
  simp [readField, opened, claimed, content]

/-- Fields are read from their documents, one after the other. -/
theorem readFields_toDocument {rearrange : Value → Value}
    (rearranges : Value.IsRearrangement rearrange) {fields : List Field}
    (readable : ∀ field ∈ fields, field.IsReadable ∧ ∃ position, field.order = .int position)
    {documents : List Value} (written : fields.mapM Field.toDocument = .ok documents)
    (supply : Supply) (index : Nat) :
    readFields supply index (documents.map rearrange) =
      (.ok (fields.map fun field => (field.reread rearrange).placed), supply) := by
  rw [Result.mapM_eq_ok_iff] at written
  induction written generalizing index with
  | nil => rfl
  | @cons field document rest documents fieldWritten restWritten inductionHypothesis =>
    obtain ⟨fieldReadable, position, order⟩ := readable field (.head _)
    have restRead := inductionHypothesis
      (fun other member => readable other (.tail _ member)) (index + 1)
    simp [readFields, readField_toDocument rearranges fieldReadable order fieldWritten, restRead,
      Except.map]

/-- Fields that are numbered already are arranged as they are. -/
theorem arrange_placed {fields : List Field} (placed : Placed fields) :
    arrange (fields.map Field.placed) = fields := by
  have ascending : (fields.map Field.placed).Pairwise fun left right =>
      decide (left.position ≤ right.position) = true := by
    rw [List.pairwise_iff_getElem]
    intro left right inLeft inRight before
    have positionAt : ∀ position (inside : position < fields.length),
        (fields[position].placed).position = position := by
      intro position inside
      have order := placed position _ (List.getElem?_eq_getElem inside)
      simp [Field.placed, order]
    simp only [List.length_map] at inLeft inRight
    simp only [List.getElem_map, positionAt left inLeft, positionAt right inRight,
      decide_eq_true_eq]
    omega
  have unchanged : (fields.map Field.placed).map PlacedField.field = fields := by
    rw [List.map_map]
    calc fields.map (PlacedField.field ∘ Field.placed) = fields.map id :=
          List.map_congr_left fun field member => by
            obtain ⟨position, order⟩ := placed.order_of_mem member
            exact Field.field_placed order
      _ = fields := List.map_id fields
  rw [arrange, List.mergeSort_of_pairwise ascending, unchanged, placed.renumber]

/-- A readable field is written. -/
theorem Field.IsReadable.written {field : Field} (readable : field.IsReadable) :
    ∃ document, field.toDocument = .ok document := by
  obtain ⟨rules, areRules, -⟩ := readable.validationRules
  obtain ⟨conditions, areConditions, -⟩ := readable.conditionalRules
  exact ⟨_, Field.toDocument_eq areRules areConditions⟩

/-- Readable fields are written. -/
theorem exists_fieldDocuments {fields : List Field} (readable : ∀ field ∈ fields, field.IsReadable) :
    ∃ documents, fields.mapM Field.toDocument = .ok documents :=
  Result.exists_mapM_eq_ok fun field member => (readable field member).written

/-- A readable form is written. -/
theorem Form.IsReadable.written {form : Form} (readable : form.IsReadable) :
    ∃ document, form.toDocument = .ok document := by
  obtain ⟨documents, fieldsWritten⟩ :=
    exists_fieldDocuments fun field member => (readable.fields field member).1
  simp [Form.toDocument, fieldsWritten]

/-- A time is read from its document. -/
theorem readTime?_timeToDocument (moment : DateTime) :
    readTime? (timeToDocument (some moment)) = .ok (some moment.asRead) := by
  have read : Iso.readDateTime? (Value.spellOutUtc (Iso.dateTimeText 'T' moment)) =
      some moment.asRead := by
    rw [Iso.spellOutUtc_dateTimeText, Iso.readDateTime?_dateTimeText]
  rw [timeToDocument, readTime?]
  · simp [Except.toOption, read]
  · simp
  · simpa using Iso.dateTimeText_ne_nil 'T' moment
  · simp

/-- The settings of a form are read from their document. -/
theorem readSettings_toDocument {rearrange : Value → Value}
    (rearranges : Value.IsRearrangement rearrange) {settings : Settings}
    (confirmation : settings.confirmationMessage.truthy = true) {entries : Entries}
    (found : entries.part "settings" = rearrange settings.toDocument) :
    readSettings entries = .ok (settings.mapValues rearrange) := by
  obtain ⟨given, same, parts, -⟩ := rearranges.record [
    ("allowMultipleSubmissions", .bool settings.allowMultipleSubmissions),
    ("showProgressBar", .bool settings.showProgressBar),
    ("confirmationMessage", settings.confirmationMessage),
    ("redirectUrl", settings.redirectUrl),
    ("saveToLocalStorage", .bool settings.saveToLocalStorage)] (by simp)
  simp only [List.forall_mem_cons] at parts
  obtain ⟨allow, progress, message, redirect, save, -⟩ := parts
  rw [Settings.toDocument, same] at found
  simp only [readSettings, found]
  simp [Entries.flag, Entries.part, allow, progress, message, redirect, save, rearranges.truthy,
    Value.orElse, confirmation, Settings.mapValues, Value.truthy.eq_2]

/-- The patterns of a form can all be read, or are no patterns at all. -/
def Form.PatternsRead (form : Form) : Prop :=
  ∀ field ∈ form.fields, ∀ rule, .proper rule ∈ field.validationRules → rule.PatternReads

/-- The warnings of the patterns of a form, field by field. -/
def Form.patternWarnings (form : Form) : List PatternWarning :=
  form.fields.flatMap fun field => (checkPatterns field.id field.validationRules).warnings

/-- So it is if the document is rearranged. -/
theorem readTime?_rearranged {rearrange : Value → Value}
    (rearranges : Value.IsRearrangement rearrange) (moment : DateTime) :
    readTime? (rearrange (timeToDocument (some moment))) = .ok (some moment.asRead) := by
  rw [rearranges.plain (timeToDocument (some moment)) trivial]
  exact readTime?_timeToDocument moment

/-- Reading numbered fields again keeps them numbered. -/
theorem Placed.reread {rearrange : Value → Value}
    (rearranges : Value.IsRearrangement rearrange) {fields : List Field} (placed : Placed fields) :
    Placed (fields.map (.reread rearrange)) := by
  intro position field found
  rw [List.getElem?_map, Option.map_eq_some_iff] at found
  obtain ⟨original, originalFound, rfl⟩ := found
  have order := placed position original originalFound
  rw [Field.reread, Field.mapValues, order]
  exact rearranges.plain _ trivial

/-- The fields of a canonical form pass the checks, and the warnings are those of the form. -/
theorem checkFields_placed {form : Form} (distinct : form.fieldIds.Nodup)
    (offers : ∀ field ∈ form.fields, field.OffersOptions) (patterns : form.PatternsRead) :
    checkFields [] (form.fields.map Field.placed) = { warnings := form.patternWarnings } := by
  have passed : (checkFields [] (form.fields.map Field.placed)).result = .ok () := by
    rw [result_checkFields_eq_ok_iff]
    refine ⟨?_, fun _ _ => List.not_mem_nil, ?_⟩
    · simpa [Form.fieldIds, Function.comp_def, Field.placed] using distinct
    · intro placed member
      obtain ⟨field, inForm, rfl⟩ := List.mem_map.mp member
      exact ⟨offers field inForm, patterns field inForm⟩
  have warnings := warnings_checkFields passed
  rw [List.flatMap_map] at warnings
  calc checkFields [] (form.fields.map Field.placed)
      = ⟨(checkFields [] (form.fields.map Field.placed)).result,
          (checkFields [] (form.fields.map Field.placed)).warnings⟩ := rfl
    _ = { warnings := form.patternWarnings } := by
      rw [passed, warnings]
      rfl

/-- The parts of a form with the documents of its fields. -/
def Form.parts (form : Form) (documents : List Value) : List (String × Value) := [
  ("id", .str form.id),
  ("title", form.title),
  ("description", form.description),
  ("fields", .list documents),
  ("settings", form.settings.toDocument),
  ("created", timeToDocument form.created),
  ("updated", timeToDocument form.updated)]

/-- The header of a form is read from entries that hold its parts rearranged. -/
theorem readHeader_parts {rearrange : Value → Value}
    (rearranges : Value.IsRearrangement rearrange) {form : Form} (readable : form.IsReadable)
    {documents : List Value} {entries : Entries}
    (given : ∀ part ∈ form.parts documents, lookup part.1 entries = some (rearrange part.2))
    (now : DateTime) :
    readHeader now entries = .ok fun id =>
      { id
        title := rearrange form.title
        description := rearrange form.description
        settings := form.settings.mapValues rearrange
        created := form.created.map DateTime.asRead
        updated := form.updated.map DateTime.asRead } := by
  simp only [Form.parts, List.forall_mem_cons] at given
  obtain ⟨-, title, description, -, settings, created, updated, -⟩ := given
  obtain ⟨creation, isCreation⟩ := readable.created
  obtain ⟨change, isChange⟩ := readable.updated
  rw [isCreation] at created
  rw [isChange] at updated
  have settingsRead : readSettings entries = .ok (form.settings.mapValues rearrange) :=
    readSettings_toDocument rearranges readable.confirmation (by simp [Entries.part, settings])
  simp [readHeader, readTimes, Entries.partOrLegacy, created, updated,
    readTime?_rearranged rearranges, settingsRead, Entries.part, title, description,
    orElse_wording rearranges readable.description, Value.orElse.eq_1 (rearrange form.title),
    rearranges.truthy, readable.title, isCreation, isChange]

/-- The document of a readable form, rearranged, is read to the form with its values rearranged, and
with its times and its default values as they are read. The clock is read, but no id is drawn. -/
theorem readForm_toDocument_of_isReadable {rearrange : Value → Value}
    (rearranges : Value.IsRearrangement rearrange) {form : Form} (readable : form.IsReadable)
    (patterns : (form.reread rearrange).PatternsRead) {document : Value}
    (written : form.toDocument = .ok document) (strict : Bool) (supply : Supply) :
    readForm strict supply (rearrange document) = {
      result := .ok (form.reread rearrange)
      supply := supply.now.2
      warnings := (form.reread rearrange).patternWarnings } := by
  obtain ⟨documents, fieldsWritten⟩ :=
    exists_fieldDocuments fun field member => (readable.fields field member).1
  simp only [Form.toDocument, fieldsWritten, Result.ok_bind, Result.pure_eq_ok,
    Except.ok.injEq] at written
  subst written
  obtain ⟨entries, same, given, absent⟩ := rearranges.record (form.parts documents)
    (by simp [Form.parts])
  have unwrapped : lookup "form" entries = none := absent _ (by simp [Form.parts])
  have header := readHeader_parts rearranges readable given supply.now.1
  simp only [Form.parts, List.forall_mem_cons] at given
  obtain ⟨id, -, -, fields, -⟩ := given
  have opened : openForm strict (.map entries) = .ok (entries, documents.map rearrange) := by
    simp [openForm, unwrap, unwrapped, Entries.part, fields, rearranges.collection]
  have claimed : claimId entries supply.now.2 = (.ok form.id, supply.now.2) := by
    simp [claimId, Entries.part, id, rearranges.str, Value.truthy, readable.id]
  have fieldsRead : readFields supply.now.2 0 (documents.map rearrange) =
      (.ok ((form.reread rearrange).fields.map Field.placed), supply.now.2) := by
    rw [readFields_toDocument rearranges
      (fun field member => ⟨(readable.fields field member).1, readable.placed.order_of_mem member⟩)
      fieldsWritten]
    simp [Form.reread]
  have checked : checkFields [] ((form.reread rearrange).fields.map Field.placed) =
      { warnings := (form.reread rearrange).patternWarnings } := by
    apply checkFields_placed
    · rw [Form.fieldIds_reread]
      exact readable.distinct
    · intro field member
      obtain ⟨original, inForm, rfl⟩ := List.mem_map.mp member
      exact (readable.fields original inForm).2
    · exact patterns
  have arranged : arrange ((form.reread rearrange).fields.map Field.placed) =
      (form.reread rearrange).fields := arrange_placed (readable.placed.reread rearranges)
  rw [Form.parts] at same
  rw [same]
  simp only [readForm, opened, header, claimed, fieldsRead, checked, arranged]
  simp [Except.map, Form.reread, Form.mapValues]

/-- A canonical form is read as it is, but for the rearrangement of its values. -/
theorem Form.IsCanonical.reread_eq {rearrange : Value → Value}
    (rearranges : Value.IsRearrangement rearrange) {form : Form} (canonical : form.IsCanonical) :
    form.reread rearrange = form.mapValues rearrange := by
  obtain ⟨created, isCreated, createdLegible⟩ := canonical.created
  obtain ⟨updated, isUpdated, updatedLegible⟩ := canonical.updated
  have fields : form.fields.map (Field.reread rearrange) =
      form.fields.map (Field.mapValues rearrange) :=
    List.map_congr_left fun field member => (canonical.fields field member).1.reread_eq rearranges
  simp [Form.reread, Form.mapValues, fields, isCreated, isUpdated, createdLegible.asRead,
    updatedLegible.asRead]

/-- The document of a canonical form, rearranged, is read to the form with its values rearranged.
The clock is read, but no id is drawn. -/
theorem readForm_toDocument {rearrange : Value → Value}
    (rearranges : Value.IsRearrangement rearrange) {form : Form} (canonical : form.IsCanonical)
    (patterns : (form.mapValues rearrange).PatternsRead) {document : Value}
    (written : form.toDocument = .ok document) (strict : Bool) (supply : Supply) :
    readForm strict supply (rearrange document) = {
      result := .ok (form.mapValues rearrange)
      supply := supply.now.2
      warnings := (form.mapValues rearrange).patternWarnings } := by
  rw [← canonical.reread_eq rearranges] at patterns ⊢
  exact readForm_toDocument_of_isReadable rearranges canonical.isReadable patterns written strict
    supply

end FormEngine
