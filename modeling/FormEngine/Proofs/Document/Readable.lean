import FormEngine.Proofs.Document.Rereading
import FormEngine.Proofs.Value.Text

/-!
# Reading gives readable forms

Whatever document a form was read from, however its parts were spelled, the form is readable: every
coercion of the reader gives what the next reading leaves as it is, times and default values apart.
Reading draws ids and times, but from no other sources than those that it was given.
-/

namespace FormEngine

/-- What a value that counts stands in for counts. -/
theorem Value.truthy_orElse {value alternative : Value} (counts : alternative.truthy = true) :
    (value.orElse alternative).truthy = true := by
  unfold Value.orElse
  split
  next itself => exact itself
  next => exact counts

/-- A value or the empty text is a wording. -/
theorem Value.isWording_orElse (value : Value) : (value.orElse (.str "")).IsWording := by
  unfold Value.orElse
  split
  next counts => exact .inl counts
  next => exact .inr rfl

/-- A recognised rule kind is one that its own document names. -/
theorem isKind_of_ruleKind {value : Value} (present : value ≠ .null)
    {kind : Recognised RuleKind} (recognised : Recognised.ruleKind value = .ok kind) :
    kind.IsKind := by
  simp only [Recognised.ruleKind] at recognised
  split at recognised
  · cases recognised
  next keyable =>
    split at recognised
    next known named =>
      cases recognised
      trivial
    next unnamed =>
      cases recognised
      exact ⟨keyable, present, unnamed⟩

/-- A recognised operator is one that its own document names. -/
theorem isOperator_operator (value : Value) : (Recognised.operator value).IsOperator := by
  unfold Recognised.operator
  split
  next known named => trivial
  next unnamed => exact unnamed

/-- A validation rule that was read is canonical. -/
theorem isCanonical_of_readValidationRule {document : Value} {rule : ValidationRule}
    (read : readValidationRule document = .ok rule) :
    rule.IsCanonical := by
  simp only [readValidationRule, Result.bind_eq_ok_iff] at read
  obtain ⟨entries, opened, rest⟩ := read
  cases document with
  | map given =>
    cases opened
    split at rest
    · cases rest
    next present =>
      simp only [Result.bind_eq_ok_iff] at rest
      obtain ⟨kind, recognised, same⟩ := rest
      cases same
      exact {
        kind := isKind_of_ruleKind present recognised
        message := Value.isWording_orElse _ }
  | _ => cases opened

/-- A conditional rule that was read is canonical. -/
theorem isCanonical_of_readConditionalRule {document : Value} {rule : ConditionalRule}
    (read : readConditionalRule document = .ok rule) : rule.IsCanonical := by
  simp only [readConditionalRule, Result.bind_eq_ok_iff] at read
  obtain ⟨entries, opened, rest⟩ := read
  split at rest
  · cases rest
  · simp only [Result.bind_eq_ok_iff] at rest
    obtain ⟨text, spelled, same⟩ := rest
    cases same
    exact ⟨⟨text, rfl⟩, isOperator_operator _⟩

/-- A source of ids that gives no empty id. -/
def Supply.NamesFields (supply : Supply) : Prop :=
  ∀ index, supply.ids.stream index ≠ ""

namespace Supply

/-- Two supplies have the same sources, however far these have been used. -/
structure SameSources (before after : Supply) : Prop where
  ids : after.ids.stream = before.ids.stream
  times : after.clock.times = before.clock.times

namespace SameSources

theorem refl (supply : Supply) : SameSources supply supply := ⟨rfl, rfl⟩

theorem trans {before middle after : Supply} (first : SameSources before middle)
    (second : SameSources middle after) : SameSources before after :=
  ⟨second.ids.trans first.ids, second.times.trans first.times⟩

/-- A source that gives no empty id stays one. -/
theorem namesFields {before after : Supply} (same : SameSources before after)
    (names : before.NamesFields) : after.NamesFields := by
  intro index
  rw [same.ids]
  exact names index

end SameSources

end Supply

/-- Claiming an id draws it from the source of ids, if at all. -/
theorem sameSources_claimId (entries : Entries) (supply : Supply) :
    supply.SameSources (claimId entries supply).2 := by
  simp only [claimId]
  split
  · exact .refl supply
  · exact ⟨rfl, rfl⟩

/-- An id that was claimed is not empty. -/
theorem claimId_ne_empty {entries : Entries} {supply rest : Supply} {id : String}
    (names : supply.NamesFields) (claimed : claimId entries supply = (.ok id, rest)) : id ≠ "" := by
  simp only [claimId] at claimed
  split at claimed
  next counts =>
    simp only [Prod.mk.injEq, Value.spell_eq_ok_iff] at claimed
    obtain ⟨⟨-, rfl⟩, -⟩ := claimed
    exact Value.text_ne_empty counts
  next =>
    cases claimed
    exact names _

/-- What is opened of the document of a field are its entries. -/
theorem eq_map_of_openField {document : Value} {entries : Entries} {type : FieldType}
    (opened : openField document = .ok (entries, type)) : document = .map entries := by
  cases document with
  | map given =>
    simp only [openField] at opened
    split at opened
    · cases opened
    · obtain ⟨_, -, same⟩ := Result.bind_eq_ok_iff.mp opened
      cases same
      rfl
  | _ => cases opened

/-- The steps of reading a field that succeeds. -/
theorem readField_eq_ok {supply : Supply} {document : Value} {placed : PlacedField}
    (read : (readField supply document).1 = .ok placed) :
    ∃ entries type id rest, document = .map entries ∧ claimId entries supply = (.ok id, rest) ∧
      readContent entries type id = .ok placed := by
  unfold readField at read
  split at read
  · cases read
  next entries type opened =>
    split at read
    · cases read
    next id rest claimed =>
      exact ⟨entries, type, id, rest, eq_map_of_openField opened, claimed, read⟩

/-- Reading a field draws from the sources that it is given. -/
theorem sameSources_readField (supply : Supply) (document : Value) :
    supply.SameSources (readField supply document).2 := by
  unfold readField
  split
  · exact .refl supply
  next entries type opened =>
    have claimed := sameSources_claimId entries supply
    split <;> simp_all

/-- Reading fields draws from the sources that it is given. -/
theorem sameSources_readFields (supply : Supply) (index : Nat) (documents : List Value) :
    supply.SameSources (readFields supply index documents).2 := by
  induction documents generalizing supply index with
  | nil => exact .refl supply
  | cons document documents inductionHypothesis =>
    have first := sameSources_readField supply document
    simp only [readFields]
    split
    next read =>
      rw [read] at first
      exact first
    next read =>
      rw [read] at first
      exact first.trans (inductionHypothesis _ _)

/-- Each document is read as one field. -/
theorem forall₂_readFields {documents : List Value} {supply : Supply} {index : Nat}
    {fields : List PlacedField} (read : (readFields supply index documents).1 = .ok fields) :
    List.Forall₂ (fun document placed => ∃ drawn, supply.SameSources drawn ∧
      (readField drawn document).1 = .ok placed) documents fields := by
  induction documents generalizing supply index fields with
  | nil =>
    cases read
    exact .nil
  | cons document documents inductionHypothesis =>
    have same := sameSources_readField supply document
    simp only [readFields] at read
    split at read
    · cases read
    next first left firstRead =>
      rw [firstRead] at same
      simp only [Result.map_eq_ok_iff] at read
      obtain ⟨others, othersRead, rfl⟩ := read
      refine .cons ⟨supply, .refl supply, by rw [firstRead]⟩ ?_
      refine (inductionHypothesis othersRead).imp ?_
      rintro _ _ ⟨drawn, later, isRead⟩
      exact ⟨drawn, same.trans later, isRead⟩

/-- Every field is read from one of the documents. -/
theorem exists_of_mem_readFields {documents : List Value} {supply : Supply} {index : Nat}
    {fields : List PlacedField} (read : (readFields supply index documents).1 = .ok fields)
    {placed : PlacedField} (member : placed ∈ fields) :
    ∃ document ∈ documents, ∃ drawn, supply.SameSources drawn ∧
      (readField drawn document).1 = .ok placed := by
  obtain ⟨lengths, each⟩ := List.forall₂_iff_get.mp (forall₂_readFields read)
  obtain ⟨place, inFields, rfl⟩ := List.getElem_of_mem member
  have inDocuments : place < documents.length := lengths ▸ inFields
  exact ⟨documents[place], List.getElem_mem inDocuments, each place inDocuments inFields⟩

/-- The rules and conditions of a field that was read are read from the documents of them. -/
theorem rules_of_readContent {entries : Entries} {type : FieldType} {id : String}
    {placed : PlacedField} (read : readContent entries type id = .ok placed) :
    ∃ (rules : List ValidationRule) (conditions : List ConditionalRule) (documents : List Value),
      placed.validationRules = rules.map .proper ∧
      placed.conditionalRules = conditions.map .proper ∧
      (∀ rule ∈ rules, ∃ document ∈ validationRuleDocuments entries,
        readValidationRule document = .ok rule) ∧
      partItems (entries.part "conditionalRules") = .ok documents ∧
      ∀ rule ∈ conditions, ∃ document ∈ documents, readConditionalRule document = .ok rule := by
  simp only [readContent, Result.bind_eq_ok_iff] at read
  obtain ⟨_, -, options, -, rules, rulesRead, documents, opened, conditions, conditionsRead, position,
    -, same⟩ := read
  cases same
  exact ⟨rules, conditions, documents, rfl, rfl, fun _ => Result.exists_of_mem_mapM rulesRead, opened,
    fun _ => Result.exists_of_mem_mapM conditionsRead⟩

/-- The content of a field that was read is readable. -/
theorem isReadable_of_readContent {entries : Entries} {type : FieldType} {id : String}
    (named : id ≠ "") {placed : PlacedField} (read : readContent entries type id = .ok placed) :
    placed.field.IsReadable := by
  obtain ⟨rules, conditions, documents, areRules, areConditions, rulesRead, -, conditionsRead⟩ :=
    rules_of_readContent read
  simp only [readContent, Result.bind_eq_ok_iff] at read
  obtain ⟨_, -, _, -, _, -, _, -, _, -, _, -, same⟩ := read
  cases same
  exact {
    id := named
    label := Value.isWording_orElse _
    required := ⟨_, rfl⟩
    validationRules := by
      refine ⟨rules, areRules, fun rule member => ?_⟩
      obtain ⟨document, -, read⟩ := rulesRead rule member
      exact isCanonical_of_readValidationRule read
    conditionalRules := by
      refine ⟨conditions, areConditions, fun rule member => ?_⟩
      obtain ⟨document, -, read⟩ := conditionsRead rule member
      exact isCanonical_of_readConditionalRule read }

/-- A field that was read is readable. -/
theorem isReadable_of_readField {supply : Supply} (names : supply.NamesFields) {document : Value}
    {placed : PlacedField} (read : (readField supply document).1 = .ok placed) :
    placed.field.IsReadable := by
  obtain ⟨_, _, _, _, -, claimed, content⟩ := readField_eq_ok read
  exact isReadable_of_readContent (claimId_ne_empty names claimed) content

/-- The order of a field has no part in whether it is readable. -/
theorem Field.IsReadable.withOrder {field : Field} (readable : field.IsReadable)
    (position : Nat) : (field.withOrder position).IsReadable :=
  { readable with }

/-- Arranged fields are the fields that were read, in another order. -/
theorem mem_arrange {fields : List PlacedField} {field : Field} (member : field ∈ arrange fields) :
    ∃ placed ∈ fields, ∃ position, field = placed.field.withOrder position := by
  obtain ⟨original, inSorted, position, rfl⟩ := mem_renumber member
  obtain ⟨placed, inFields, rfl⟩ := List.mem_map.mp inSorted
  exact ⟨placed, List.mem_mergeSort.mp inFields, position, rfl⟩

/-- Arranging permutes ids. -/
theorem map_id_arrange (fields : List PlacedField) :
    ((arrange fields).map (·.id)).Perm (fields.map (·.id)) := by
  rw [arrange, map_id_renumber, List.map_map]
  exact (List.mergeSort_perm fields _).map (·.id)

/-- The steps of a reading that succeeds. -/
theorem readForm_eq_ok {strict : Bool} {supply : Supply} {document : Value} {form : Form}
    (read : (readForm strict supply document).result = .ok form) :
    ∃ entries documents header id claimed fields rest,
      openForm strict document = .ok (entries, documents) ∧
      readHeader supply.now.1 entries = .ok header ∧
      claimId entries supply.now.2 = (.ok id, claimed) ∧
      readFields claimed 0 documents = (.ok fields, rest) ∧
      (checkFields [] fields).result = .ok () ∧
      form = { header id with fields := arrange fields } ∧
      (readForm strict supply document).warnings = (checkFields [] fields).warnings := by
  cases opened : openForm strict document with
  | error fault =>
    simp only [readForm, opened] at read
    cases read
  | ok parts =>
    obtain ⟨entries, documents⟩ := parts
    cases headerRead : readHeader supply.now.1 entries with
    | error fault =>
      simp only [readForm, opened, headerRead] at read
      cases read
    | ok header =>
      rcases claim : claimId entries supply.now.2 with ⟨claimResult, claimed⟩
      cases claimResult with
      | error fault =>
        simp only [readForm, opened, headerRead, claim] at read
        cases read
      | ok id =>
        rcases fieldsRead : readFields claimed 0 documents with ⟨fieldsResult, rest⟩
        cases fieldsResult with
        | error fault =>
          simp only [readForm, opened, headerRead, claim, fieldsRead] at read
          cases read
        | ok fields =>
          simp only [readForm, opened, headerRead, claim, fieldsRead, Result.map_eq_ok_iff] at read ⊢
          obtain ⟨_, passed, same⟩ := read
          exact ⟨entries, documents, header, id, claimed, fields, rest, rfl, headerRead, claim,
            fieldsRead, passed, same.symm, rfl⟩

/-- The message of settings that were read counts. -/
theorem truthy_of_readSettings {entries : Entries} {settings : Settings}
    (read : readSettings entries = .ok settings) :
    settings.confirmationMessage.truthy = true := by
  simp only [readSettings] at read
  split at read
  · cases read
    rfl
  · cases read
    exact Value.truthy_orElse rfl
  · cases read

/-- The fields of a form that was read have the options that they need. -/
theorem offersOptions_of_readForm {strict : Bool} {supply : Supply} {document : Value} {form : Form}
    (read : (readForm strict supply document).result = .ok form) :
    ∀ field ∈ form.fields, field.OffersOptions := by
  obtain ⟨_, _, _, _, _, fields, _, -, -, -, -, passed, rfl, -⟩ := readForm_eq_ok read
  obtain ⟨-, -, passes⟩ := result_checkFields_eq_ok_iff.mp passed
  intro field member
  obtain ⟨placed, inFields, position, rfl⟩ := mem_arrange member
  exact (passes placed inFields).options

/-- The fields of a form that was read have distinct ids and their places as their orders. -/
theorem distinct_and_placed_of_readForm {strict : Bool} {supply : Supply} {document : Value}
    {form : Form} (read : (readForm strict supply document).result = .ok form) :
    form.fieldIds.Nodup ∧ Placed form.fields := by
  obtain ⟨_, _, _, _, _, fields, _, -, -, -, -, passed, rfl, -⟩ := readForm_eq_ok read
  obtain ⟨distinct, -, -⟩ := result_checkFields_eq_ok_iff.mp passed
  exact ⟨(map_id_arrange fields).nodup_iff.mpr distinct, placed_renumber _⟩

/-- Each field of a form that was read is read from one of the entries that were opened. -/
theorem exists_of_mem_fields_readForm {strict : Bool} {supply : Supply} {document : Value}
    {form : Form} (read : (readForm strict supply document).result = .ok form) {field : Field}
    (member : field ∈ form.fields) :
    ∃ entries documents, openForm strict document = .ok (entries, documents) ∧
      ∃ entry ∈ documents, ∃ drawn placed position, supply.SameSources drawn ∧
        (readField drawn entry).1 = .ok placed ∧ field = placed.field.withOrder position := by
  obtain ⟨entries, documents, _, _, claimed, fields, _, opened, -, claim, fieldsRead, -, rfl, -⟩ :=
    readForm_eq_ok read
  have earlier : supply.SameSources claimed := by
    have drawn := sameSources_claimId entries supply.now.2
    rw [claim] at drawn
    exact ⟨drawn.ids, drawn.times⟩
  obtain ⟨placed, inFields, position, rfl⟩ := mem_arrange member
  obtain ⟨entry, inDocuments, drawn, later, isRead⟩ :=
    exists_of_mem_readFields (congrArg Prod.fst fieldsRead) inFields
  exact ⟨entries, documents, opened, entry, inDocuments, drawn, placed, position,
    earlier.trans later, isRead, rfl⟩

/-- The patterns of a form that was read can be read or are none. -/
theorem patternsRead_of_readForm {strict : Bool} {supply : Supply} {document : Value} {form : Form}
    (read : (readForm strict supply document).result = .ok form) : form.PatternsRead := by
  obtain ⟨_, _, _, _, _, fields, _, -, -, -, -, passed, rfl, -⟩ := readForm_eq_ok read
  obtain ⟨-, -, passes⟩ := result_checkFields_eq_ok_iff.mp passed
  intro field member
  obtain ⟨placed, inFields, position, rfl⟩ := mem_arrange member
  exact (passes placed inFields).patterns

/-- A form that was read is readable, and its patterns can be read or are none. -/
theorem isReadable_of_readForm {strict : Bool} {supply : Supply} (names : supply.NamesFields)
    {document : Value} {form : Form} (read : (readForm strict supply document).result = .ok form) :
    form.IsReadable ∧ form.PatternsRead := by
  obtain ⟨distinct, placed⟩ := distinct_and_placed_of_readForm read
  have fieldsReadable : ∀ field ∈ form.fields, field.IsReadable := by
    intro field member
    obtain ⟨_, _, -, _, -, drawn, _, position, same, isRead, rfl⟩ :=
      exists_of_mem_fields_readForm read member
    exact (isReadable_of_readField (same.namesFields names) isRead).withOrder position
  have offers := offersOptions_of_readForm read
  have patterns := patternsRead_of_readForm read
  obtain ⟨_, _, _, _, _, _, _, -, headerRead, claim, -, -, same, -⟩ := readForm_eq_ok read
  simp only [readHeader, Result.bind_eq_ok_iff] at headerRead
  obtain ⟨⟨created, updated⟩, -, settings, settingsRead, sameHeader⟩ := headerRead
  cases sameHeader
  subst same
  have namesLater : supply.now.2.NamesFields := names
  exact ⟨{
    id := claimId_ne_empty namesLater claim
    title := Value.truthy_orElse (by decide)
    description := Value.isWording_orElse _
    confirmation := truthy_of_readSettings settingsRead
    created := ⟨created, rfl⟩
    updated := ⟨updated, rfl⟩
    fields := fun field member => ⟨fieldsReadable field member, offers field member⟩
    distinct
    placed }, patterns⟩

/-- Reading a form draws from the sources that it is given. -/
theorem sameSources_readForm (strict : Bool) (supply : Supply) (document : Value) :
    supply.SameSources (readForm strict supply document).supply := by
  have now : supply.SameSources supply.now.2 := ⟨rfl, rfl⟩
  unfold readForm
  split
  · exact .refl supply
  next entries documents opened =>
    have claimed := now.trans (sameSources_claimId entries supply.now.2)
    simp only
    split
    · exact now
    · split
      next claim =>
        rw [claim] at claimed
        exact claimed
      next id rest claim =>
        rw [claim] at claimed
        have fields := claimed.trans (sameSources_readFields rest 0 documents)
        split <;> simp_all

end FormEngine
