import FormEngine.Document.Format
import FormEngine.Proofs.Field.Typing
import FormEngine.Proofs.Json.Writing
import FormEngine.Proofs.Value.SortKeys

/-!
# Forms that can be exported

A form with parts of the right types, with ids, with options where they are needed and with its
fields in order is written as a tree, in JSON as well as in YAML. What is read of this tree, even
with its maps rearranged, is the same form but for its default values. Its times are what can be
read off their texts.
-/

namespace FormEngine

/-- A field that can be exported. -/
structure Field.IsExportable (field : Field) : Prop where
  id : field.id ≠ ""
  options : field.OffersOptions
  content : field.toFieldContent.IsTyped

/-- All of a form but its fields, as it can be exported. -/
structure FormHeader.IsExportable (header : FormHeader) : Prop where
  id : header.id ≠ ""
  title : header.title.IsNonemptyText
  description : header.description.IsText
  confirmation : header.settings.confirmationMessage.IsNonemptyText
  redirect : header.settings.redirectUrl.IsHint
  created : ∃ moment, header.created = some moment
  updated : ∃ moment, header.updated = some moment

/-- A form that can be exported. -/
structure Form.IsExportable (form : Form) : Prop where
  header : form.toFormHeader.IsExportable
  fields : ∀ field ∈ form.fields, field.IsExportable
  distinct : form.fieldIds.Nodup
  placed : Placed form.fields

/-- The times of a form as they are read off their texts, with the rest of it but its fields. -/
def FormHeader.asRead (header : FormHeader) : FormHeader :=
  { header with
    created := header.created.map DateTime.asRead
    updated := header.updated.map DateTime.asRead }

/-- Two fields are the same but for their default values. -/
def Field.AgreesWith (field other : Field) : Prop :=
  ∃ defaultValue, field = { other with defaultValue }

/-- A hint is a tree. -/
theorem Value.IsHint.isTree {admitted : Double → Prop} {value : Value} (hint : value.IsHint) :
    value.IsTree admitted := by
  rcases hint with rfl | isText
  · exact .null
  · exact isText.isTree

/-- What stands for a default value in documents is a tree. -/
theorem Value.IsDefault.isJson_toDocument {value : Value} (isDefault : value.IsDefault) :
    value.toDocument.IsJson := by
  rcases isDefault with tree | ⟨day, rfl⟩
  · rwa [tree.toDocument]
  · exact .str _

/-- A word for a rule kind is one that its document names, and a text there. -/
theorem Recognised.IsWord.isKind {kind : Recognised RuleKind}
    (isWord : kind.IsWord RuleKind.ofWire?) : kind.IsKind ∧ kind.kindWire.IsText := by
  cases kind with
  | known kind => exact ⟨trivial, _, rfl⟩
  | unknown raw =>
    obtain ⟨text, rfl, unnamed⟩ := isWord
    exact ⟨⟨rfl, by simp, unnamed⟩, text, rfl⟩

/-- A word for an operator is one that its document names, and a text there. -/
theorem Recognised.IsWord.isOperator {operator : Recognised Operator}
    (isWord : operator.IsWord Operator.ofWire?) :
    operator.IsOperator ∧ operator.operatorWire.IsText := by
  cases operator with
  | known operator => exact ⟨trivial, _, rfl⟩
  | unknown raw =>
    obtain ⟨text, rfl, unnamed⟩ := isWord
    exact ⟨unnamed, text, rfl⟩

namespace ValidationRule.IsTyped

variable {rule : ValidationRule} (typed : rule.IsTyped)
include typed

theorem isCanonical : rule.IsCanonical :=
  ⟨typed.kind.isKind.1, typed.message.isWording⟩

theorem isJson : rule.toDocument.IsJson := by
  simp [ValidationRule.toDocument, typed.kind.isKind.2.isTree, typed.parameter.isJson,
    typed.message.isTree]

end ValidationRule.IsTyped

namespace ConditionalRule.IsTyped

variable {rule : ConditionalRule} (typed : rule.IsTyped)
include typed

theorem isCanonical : rule.IsCanonical :=
  ⟨typed.trigger, typed.operator.isOperator.1⟩

theorem isJson : rule.toDocument.IsJson := by
  simp [ConditionalRule.toDocument, typed.trigger.isTree, typed.operator.isOperator.2.isTree,
    typed.comparison.isJson]

end ConditionalRule.IsTyped

namespace Field.IsExportable

variable {field : Field} (exportable : field.IsExportable)
include exportable

/-- A field that can be exported is readable. -/
theorem isReadable : field.IsReadable := by
  obtain ⟨rules, areRules, rulesTyped⟩ :=
    Entry.exists_of_isProper exportable.content.validationRules
  obtain ⟨conditions, areConditions, conditionsTyped⟩ :=
    Entry.exists_of_isProper exportable.content.conditionalRules
  exact {
    id := exportable.id
    label := exportable.content.label.isWording
    required := exportable.content.required
    validationRules := ⟨rules, areRules, fun rule member => (rulesTyped rule member).isCanonical⟩
    conditionalRules :=
      ⟨conditions, areConditions, fun rule member => (conditionsTyped rule member).isCanonical⟩ }

/-- The values of a field that can be exported are trees. -/
theorem holdsTrees (order : ∃ position, field.order = .int position) :
    field.HoldsTrees fun _ => True := by
  obtain ⟨rules, areRules, rulesTyped⟩ :=
    Entry.exists_of_isProper exportable.content.validationRules
  obtain ⟨conditions, areConditions, conditionsTyped⟩ :=
    Entry.exists_of_isProper exportable.content.conditionalRules
  obtain ⟨position, isPosition⟩ := order
  obtain ⟨flag, isFlag⟩ := exportable.content.required
  exact {
    label := exportable.content.label.isTree
    placeholder := exportable.content.placeholder.isTree
    description := exportable.content.description.isTree
    required := isFlag ▸ .bool flag
    order := isPosition ▸ .int position
    defaultValue := exportable.content.defaultValue.isJson_toDocument
    validationRules := ⟨rules, areRules, fun rule member => (rulesTyped rule member).isJson⟩
    conditionalRules :=
      ⟨conditions, areConditions, fun rule member => (conditionsTyped rule member).isJson⟩ }

end Field.IsExportable

section Rearranged

variable {rearrange : Value → Value} (rearranges : Value.IsRearrangement rearrange)
include rearranges

/-- A text stays as it is under every rearrangement. -/
theorem Value.IsText.rearranged {value : Value} (isText : value.IsText) :
    rearrange value = value := by
  obtain ⟨text, rfl⟩ := isText
  exact rearranges.str text

/-- So does a hint. -/
theorem Value.IsHint.rearranged {value : Value} (hint : value.IsHint) :
    rearrange value = value := by
  rcases hint with rfl | isText
  · exact rearranges.plain .null trivial
  · exact isText.rearranged rearranges

/-- So does a text that is not empty. -/
theorem Value.IsNonemptyText.rearranged {value : Value} (isText : value.IsNonemptyText) :
    rearrange value = value := by
  obtain ⟨text, -, rfl⟩ := isText
  exact rearranges.str text

/-- So does a word. -/
theorem Recognised.IsWord.rearranged {κ : Type} {ofWire? : String → Option κ}
    {word : Recognised κ} (isWord : word.IsWord ofWire?) : word.mapRaw rearrange = word := by
  cases word with
  | known word => rfl
  | unknown raw =>
    obtain ⟨text, rfl, -⟩ := isWord
    rw [Recognised.mapRaw, rearranges.str]

omit rearranges in
/-- So do proper entries, if their items do. -/
theorem Entry.rearranged {α : Type} {holds : α → Prop} {change : α → α}
    (kept : ∀ item, holds item → change item = item) {entries : List (Entry α)}
    (proper : ∀ entry ∈ entries, entry.IsProper holds) :
    entries.map (.mapValues change rearrange) = entries := by
  refine (List.map_congr_left fun entry member => ?_).trans (List.map_id entries)
  cases entry with
  | proper item => simp [Entry.mapValues, kept item (proper _ member)]
  | stray value => exact (proper _ member).elim

/-- A field that can be exported is read again but for its default value. -/
theorem Field.IsExportable.reread_agrees {field : Field} (exportable : field.IsExportable)
    (order : ∃ position, field.order = .int position) :
    (field.reread rearrange).AgreesWith field := by
  have typed := exportable.content
  obtain ⟨position, isPosition⟩ := order
  obtain ⟨flag, isFlag⟩ := typed.required
  have rules : field.validationRules.map (.mapValues (.mapValues rearrange) rearrange) =
      field.validationRules := by
    refine Entry.rearranged (fun rule ruleTyped => ?_) typed.validationRules
    simp [ValidationRule.mapValues, ruleTyped.kind.rearranged rearranges,
      rearranges.scalar ruleTyped.parameter, ruleTyped.message.rearranged rearranges]
  have conditions : field.conditionalRules.map (.mapValues (.mapValues rearrange) rearrange) =
      field.conditionalRules := by
    refine Entry.rearranged (fun rule ruleTyped => ?_) typed.conditionalRules
    simp [ConditionalRule.mapValues, ruleTyped.operator.rearranged rearranges,
      rearranges.scalar ruleTyped.comparison, ruleTyped.trigger.rearranged rearranges]
  refine ⟨readDefault field.type (rearrange field.defaultValue.toDocument), ?_⟩
  simp [Field.reread, Field.mapValues, rules, conditions, typed.label.rearranged rearranges,
    typed.placeholder.rearranged rearranges, typed.description.rearranged rearranges, isPosition,
    isFlag, rearranges.plain (.bool flag) trivial, rearranges.plain (.int position) trivial]

end Rearranged

namespace Form.IsExportable

variable {form : Form} (exportable : form.IsExportable)
include exportable

/-- A form that can be exported is readable. -/
theorem isReadable : form.IsReadable where
  id := exportable.header.id
  title := exportable.header.title.truthy
  description := exportable.header.description.isWording
  confirmation := exportable.header.confirmation.truthy
  created := exportable.header.created
  updated := exportable.header.updated
  fields := fun field member =>
    ⟨(exportable.fields field member).isReadable, (exportable.fields field member).options⟩
  distinct := exportable.distinct
  placed := exportable.placed

/-- The document of a form that can be exported is a tree. -/
theorem isJson {document : Value} (written : form.toDocument = .ok document) : document.IsJson :=
  Form.isTree_of_toDocument exportable.header.title.isTree exportable.header.description.isTree
    exportable.header.confirmation.isTree exportable.header.redirect.isTree
    (fun field member =>
      (exportable.fields field member).holdsTrees (exportable.placed.order_of_mem member)) written

variable {rearrange : Value → Value} (rearranges : Value.IsRearrangement rearrange)
include rearranges

/-- A form that can be exported is read again field by field. -/
theorem fields_reread :
    List.Forall₂ Field.AgreesWith (form.reread rearrange).fields form.fields := by
  refine List.forall₂_map_left_iff.mpr (List.forall₂_same.mpr fun field member => ?_)
  exact (exportable.fields field member).reread_agrees rearranges
    (exportable.placed.order_of_mem member)

/-- It is read again as it is, its times and default values apart. -/
theorem header_reread : (form.reread rearrange).toFormHeader = form.toFormHeader.asRead := by
  simp [Form.reread, Form.mapValues, Settings.mapValues, FormHeader.asRead,
    exportable.header.title.rearranged rearranges,
    exportable.header.description.rearranged rearranges,
    exportable.header.confirmation.rearranged rearranges,
    exportable.header.redirect.rearranged rearranges]

/-- Its patterns can be read again, or are none. -/
theorem patternsRead_reread : (form.reread rearrange).PatternsRead := by
  intro field member rule isRule
  obtain ⟨original, inForm, rfl⟩ := List.mem_map.mp member
  obtain ⟨defaultValue, same⟩ := (exportable.fields original inForm).reread_agrees rearranges
    (exportable.placed.order_of_mem inForm)
  rw [same] at isRule
  exact ((exportable.fields original inForm).content.validationRules _ isRule).pattern

/-- What is read of its document, even with maps rearranged, is the form but for its default values,
with its times as they can be read. -/
theorem readForm_toDocument {document : Value} (written : form.toDocument = .ok document)
    (strict : Bool) (supply : Supply) :
    ∃ read, (readForm strict supply (rearrange document)).result = .ok read ∧
      read.toFormHeader = form.toFormHeader.asRead ∧
      List.Forall₂ Field.AgreesWith read.fields form.fields := by
  refine ⟨form.reread rearrange, ?_, exportable.header_reread rearranges,
    exportable.fields_reread rearranges⟩
  rw [readForm_toDocument_of_isReadable rearranges exportable.isReadable
    (exportable.patternsRead_reread rearranges) written]

end Form.IsExportable

namespace Format

/-- What a document becomes on the way through a text: JSON sorts the keys of maps. -/
def rearrange : Format → Value → Value
  | .json => Value.sortKeys
  | .yaml => id

theorem isRearrangement (format : Format) : Value.IsRearrangement format.rearrange := by
  cases format with
  | json => exact Value.isRearrangement_sortKeys
  | yaml => exact .id

end Format

/-- A form that can be exported has a text in every format, unless it holds an overlong integer. -/
theorem Form.IsExportable.exists_write {form : Form} (exportable : form.IsExportable)
    {document : Value} (written : form.toDocument = .ok document)
    (short : document.hasOverlong = false) (format : Format) (yaml : YamlLibrary) :
    ∃ text, form.write format yaml = .ok text := by
  cases format with
  | json =>
    obtain ⟨text, textWritten⟩ := Json.write_eq_ok (exportable.isJson written) short
    exact ⟨text, by simp [Form.write, written, Format.write, textWritten]⟩
  | yaml =>
    obtain ⟨entries, rfl⟩ : ∃ entries, document = .map entries := by
      obtain ⟨documents, -, same⟩ := Result.bind_eq_ok_iff.mp written
      exact ⟨_, (Except.ok.inj same).symm⟩
    exact ⟨yaml.write entries, by simp [Form.write, written, Format.write, short]⟩

end FormEngine
