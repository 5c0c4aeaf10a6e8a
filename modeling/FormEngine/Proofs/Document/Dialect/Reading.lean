import FormEngine.Proofs.Document.Dialect.Spelling
import FormEngine.Proofs.Document.Escape
import FormEngine.Proofs.Document.Rereading

/-!
# Reading dialects

All spellings of a document are read alike: they give the same form, after the same ids were drawn,
or faults of one category, and the same warnings. Only what a fault quotes from the document shows
how it was spelled. Each reader looks up what it asks for under the names of both dialects, so the
statement climbs from the parts of fields to fields and to forms.
-/

namespace FormEngine

/-- Two results of reading are the same, or faults of one category. -/
abbrev AlikeResult {α : Type} (result other : Except Fault α) : Prop :=
  Result.Alike Fault.category result other

/-- Two steps of reading give results that are alike, and leave the same ids and times. -/
inductive AlikeStep {α : Type} : Except Fault α × Supply → Except Fault α × Supply → Prop
  | read (value : α) (supply : Supply) : AlikeStep (.ok value, supply) (.ok value, supply)
  | failed {fault other : Fault} (same : fault.category = other.category) (supply : Supply) :
      AlikeStep (.error fault, supply) (.error other, supply)

namespace AlikeStep

variable {α β : Type}

/-- Results that are alike make steps that are alike. -/
theorem of_alike {result other : Except Fault α} (alike : AlikeResult result other)
    (supply : Supply) : AlikeStep (result, supply) (other, supply) := by
  cases alike with
  | ok value => exact .read value supply
  | error same => exact .failed same supply

/-- Steps that are alike stay so where something is made of their values. -/
theorem map {step other : Except Fault α × Supply} (f : α → β) (alike : AlikeStep step other) :
    AlikeStep (step.1.map f, step.2) (other.1.map f, other.2) := by
  cases alike with
  | read value supply => exact .read (f value) supply
  | failed same supply => exact .failed same supply

end AlikeStep

/-- All spellings of an option read alike. -/
theorem readChoice_alike {document : ChoiceDocument} {value other : Value}
    (spelled : document.IsSpelledBy value) (otherSpelled : document.IsSpelledBy other) :
    AlikeResult (readChoice value) (readChoice other) := by
  have reading {value : Value} (spelled : document.IsSpelledBy value) :
      readChoice value =
        if document.value = .null then .error (.optionWithoutText value)
        else do return ⟨← document.label.spell, ← document.value.spell⟩ := by
    cases spelled with
    | labelled label value =>
      simp only [readChoice, Entries.partOrLegacy, label, value, Option.some_or, Option.getD_some]
    | plain text => simp [readChoice]
  rw [reading spelled, reading otherSpelled]
  exact Result.alike_ite rfl

/-- The words of a rule kind are recognised as the same. -/
theorem RuleKind.IsWord.ruleKind_eq {kind word : Value} (isWord : IsWord kind word) :
    Recognised.ruleKind word = Recognised.ruleKind kind := by
  cases isWord <;> rfl

/-- The words of a rule kind are missing in the same case. -/
theorem RuleKind.IsWord.eq_null_iff {kind word : Value} (isWord : IsWord kind word) :
    word = .null ↔ kind = .null := by
  cases isWord <;> simp

/-- All spellings of a validation rule read alike. -/
theorem readValidationRule_alike {document : RuleDocument} {value other : Value}
    (spelled : document.IsSpelledBy value) (otherSpelled : document.IsSpelledBy other) :
    AlikeResult (readValidationRule value) (readValidationRule other) := by
  have reading {value : Value} (spelled : document.IsSpelledBy value) :
      readValidationRule value =
        if document.kind = .null then .error (.ruleWithoutKind value)
        else do return {
          kind := ← Recognised.ruleKind document.kind
          parameter := document.parameter
          message := document.message.orElse (.str "") } := by
    obtain ⟨entries, rfl, ⟨word, isWord, kind⟩, parameter, message⟩ := spelled
    simp only [readValidationRule, partEntries, Result.ok_bind, kind.partOrLegacy_eq,
      parameter.partOrLegacy_eq, Entries.part, message, Option.getD_some, isWord.ruleKind_eq,
      isWord.eq_null_iff, Result.throw_eq_error]
  rw [reading spelled, reading otherSpelled]
  exact Result.alike_ite rfl

/-- All spellings of a conditional rule read alike. -/
theorem readConditionalRule_alike {document : ConditionDocument} {value other : Value}
    (spelled : document.IsSpelledBy value) (otherSpelled : document.IsSpelledBy other) :
    AlikeResult (readConditionalRule value) (readConditionalRule other) := by
  have reading {value : Value} (spelled : document.IsSpelledBy value) :
      readConditionalRule value =
        if document.trigger = .null then .error (.ruleWithoutTrigger value)
        else do return {
          trigger := .str (← document.trigger.spell)
          operator := Recognised.operator document.operator
          comparison := document.comparison } := by
    obtain ⟨entries, rfl, trigger, operator, comparison⟩ := spelled
    simp only [readConditionalRule, partEntries, Result.ok_bind, trigger.partOrLegacy_eq,
      operator, comparison.partOrLegacy_eq, Option.getD_some, Result.throw_eq_error]
  rw [reading spelled, reading otherSpelled]
  exact Result.alike_ite rfl

section Field

variable {document : FieldDocument}

/-- The content of a field is read alike from all maps in which its parts are found. -/
theorem readContent_alike {entries others : Entries} (found : document.IsFoundIn entries)
    (otherFound : document.IsFoundIn others) (type : FieldType) (id : String) :
    AlikeResult (readContent entries type id) (readContent others type id) := by
  obtain ⟨options, optionsFound, optionsSpelled⟩ := found.options
  obtain ⟨otherOptions, otherOptionsFound, otherOptionsSpelled⟩ := otherFound.options
  obtain ⟨rules, rulesFound, rulesSpelled⟩ := found.validationRules
  obtain ⟨otherRules, otherRulesFound, otherRulesSpelled⟩ := otherFound.validationRules
  obtain ⟨conditions, conditionsFound, conditionsSpelled⟩ := found.conditionalRules
  obtain ⟨otherConditions, otherConditionsFound, otherConditionsSpelled⟩ :=
    otherFound.conditionalRules
  simp only [readContent, Entries.part, optionsFound, otherOptionsFound, conditionsFound,
    otherConditionsFound, Option.getD_some, partItems_list, Result.ok_bind,
    validationRuleDocuments, rulesFound.partOrLegacy_eq, otherRulesFound.partOrLegacy_eq,
    found.label, found.placeholder, found.description, found.required, found.order,
    found.defaultValue, otherFound.label, otherFound.placeholder, otherFound.description,
    otherFound.required, otherFound.order, otherFound.defaultValue]
  refine (Result.alike_mapM optionsSpelled otherOptionsSpelled readChoice_alike).bind fun _ => ?_
  refine (Result.alike_mapM rulesSpelled otherRulesSpelled
    readValidationRule_alike).bind fun _ => ?_
  exact (Result.alike_mapM conditionsSpelled otherConditionsSpelled
    readConditionalRule_alike).bind fun _ => .refl _

/-- All spellings of a field read alike, and draw the same ids. -/
theorem readField_alike {value other : Value} (spelled : document.IsSpelledBy value)
    (otherSpelled : document.IsSpelledBy other) (supply : Supply) :
    AlikeStep (readField supply value) (readField supply other) := by
  obtain ⟨entries, rfl, found⟩ := spelled
  obtain ⟨others, rfl, otherFound⟩ := otherSpelled
  have sameId : claimId others supply = claimId entries supply := by
    simp only [claimId, Entries.part, found.id, otherFound.id]
  simp only [readField, openField, found.type, otherFound.type]
  cases FieldType.ofValue document.type with
  | error fault => exact .of_alike (.refl _) supply
  | ok type =>
    simp only [Result.ok_bind, Result.pure_eq_ok, sameId]
    split
    · exact .of_alike (.refl _) _
    · exact .of_alike (readContent_alike found otherFound _ _) _

end Field

/-- The category under which a fault inside a field is reported. -/
theorem Fault.category_atField (index : Nat) (fault : Fault) :
    (fault.atField index).category =
      if fault.isCaught then .schemaImport else fault.category := by
  cases caught : fault.isCaught with
  | true =>
    by_contra escapes
    have uncaught := (category_atField_iff index fault).mp escapes
    rw [caught] at uncaught
    cases uncaught
  | false =>
    have unnamed : fault.told = fault := by
      unfold told
      split
      next named => cases fault <;> first | rfl | cases named | cases caught
      next => rfl
    unfold Fault.isCaught at caught
    unfold atField
    rw [unnamed]
    split <;> simp_all

/-- All spellings of some fields read alike, and draw the same ids. -/
theorem readFields_alike {documents : List FieldDocument} {values others : List Value}
    (spelled : List.Forall₂ FieldDocument.IsSpelledBy documents values)
    (otherSpelled : List.Forall₂ FieldDocument.IsSpelledBy documents others) (supply : Supply)
    (index : Nat) :
    AlikeStep (readFields supply index values) (readFields supply index others) := by
  induction spelled generalizing others supply index with
  | nil =>
    cases otherSpelled
    exact .of_alike (.refl _) supply
  | @cons _ value _ _ first _ inductionHypothesis =>
    cases otherSpelled with
    | @cons _ other _ _ otherFirst otherRest =>
      have alike := readField_alike first otherFirst supply
      simp only [readFields]
      -- The two steps are alike but not equal, so they are taken apart together.
      generalize readField supply value = reading at alike ⊢
      generalize readField supply other = otherReading at alike ⊢
      cases alike with
      | @failed fault otherFault same rest =>
        have sameCaught : fault.isCaught = otherFault.isCaught := by
          simp only [Fault.isCaught, same]
        refine .failed ?_ rest
        rw [Fault.category_atField, Fault.category_atField, sameCaught, same]
      | read field rest => exact (inductionHypothesis otherRest rest (index + 1)).map _

/-- What is given under one of two names is given by all entries that have the same under both. -/
theorem Entries.Gives.of_lookup {entries others : Entries} {key legacy : String} {value : Value}
    (gives : entries.Gives key legacy value) (same : lookup key others = lookup key entries)
    (sameLegacy : lookup legacy others = lookup legacy entries) :
    others.Gives key legacy value := by
  cases gives with
  | named found => exact .named (same.trans found)
  | named_before absent found =>
    exact .named_before (same.trans absent) (sameLegacy.trans found)

section Form

variable {document : FormDocument}

/-- The fields of a form do not hide its other parts. -/
theorem FormDocument.HeadIsFoundIn.cons_fields {entries : Entries}
    (found : document.HeadIsFoundIn entries) (fields : Value) :
    document.HeadIsFoundIn ((.str "fields", fields) :: entries) where
  id := found.id
  title := found.title
  description := found.description
  settings := found.settings
  created := found.created.of_lookup rfl rfl
  updated := found.updated.of_lookup rfl rfl

/-- A spelling of a form is opened up to a map in which its parts are found and spellings of its
fields, wrapped or not. -/
theorem FormDocument.IsSpelledBy.exists_openForm {value : Value}
    (spelled : document.IsSpelledBy value) :
    ∃ entries items, (∀ strict, openForm strict value = .ok (entries, items)) ∧
      document.HeadIsFoundIn entries ∧
      List.Forall₂ FieldDocument.IsSpelledBy document.fields items := by
  cases spelled with
  | @plain entries items form head fields each =>
    refine ⟨entries, items, fun strict => ?_, head, each⟩
    simp only [openForm, unwrap, form, Entries.part, fields, Option.getD_some]
  | @wrapped entries inner items form head fields each =>
    refine ⟨_, items, fun strict => ?_, head.cons_fields (.list items), each⟩
    simp [openForm, unwrap, form, fields, Entries.part, lookup]

/-- The head of a form is read equally from all maps in which its parts are found. -/
theorem FormDocument.HeadIsFoundIn.readHeader_eq {entries others : Entries}
    (found : document.HeadIsFoundIn entries) (otherFound : document.HeadIsFoundIn others)
    (now : DateTime) : readHeader now entries = readHeader now others := by
  simp only [readHeader, readTimes, readSettings, Entries.part, found.title, found.description,
    found.settings, found.created.partOrLegacy_eq, found.updated.partOrLegacy_eq,
    otherFound.title, otherFound.description, otherFound.settings,
    otherFound.created.partOrLegacy_eq, otherFound.updated.partOrLegacy_eq]

/-- Readings that give the same form and the same warnings, or faults of one category and the same
warnings. Both draw the same ids and times. -/
structure Reading.Alike (reading other : Reading Form) : Prop where
  result : AlikeResult reading.result other.result
  supply : reading.supply = other.supply
  warnings : reading.warnings = other.warnings

/-- All spellings of a form read alike. -/
theorem readForm_alike {value other : Value} (spelled : document.IsSpelledBy value)
    (otherSpelled : document.IsSpelledBy other) (strict : Bool) (supply : Supply) :
    (readForm strict supply value).Alike (readForm strict supply other) := by
  obtain ⟨entries, items, opened, head, each⟩ := spelled.exists_openForm
  obtain ⟨others, otherItems, otherOpened, otherHead, otherEach⟩ := otherSpelled.exists_openForm
  have sameId (supply : Supply) : claimId others supply = claimId entries supply := by
    simp only [claimId, Entries.part, head.id, otherHead.id]
  simp only [readForm, opened, otherOpened, head.readHeader_eq otherHead, sameId]
  cases readHeader supply.now.1 others with
  | error fault => exact ⟨.refl _, rfl, rfl⟩
  | ok header =>
    rcases claimId entries supply.now.2 with ⟨fault | id, rest⟩
    · exact ⟨.refl _, rfl, rfl⟩
    · have alike := readFields_alike each otherEach rest 0
      dsimp only
      generalize readFields rest 0 items = reading at alike ⊢
      generalize readFields rest 0 otherItems = otherReading at alike ⊢
      cases alike with
      | failed same => exact ⟨.error same, rfl, rfl⟩
      | read fields => exact ⟨.refl _, rfl, rfl⟩

end Form

/-- Dialects mean the same. Every form is written as the canonical spelling of a document, and
whatever spells a document, in any mixture of dialects, is read as its canonical spelling is. -/
theorem readForm_of_isSpelledBy :
    (∀ (form : Form) (written : Value), form.toDocument = .ok written →
      ∃ document : FormDocument, document.toValue = written ∧ document.IsSpelledBy written) ∧
    ∀ (document : FormDocument) (older : Value), document.IsSpelledBy older →
      ∀ (strict : Bool) (supply : Supply),
        (readForm strict supply older).Alike (readForm strict supply document.toValue) := by
  refine ⟨fun form written isWritten => ?_, fun document older spelled strict supply => ?_⟩
  · obtain ⟨document, rfl⟩ := form.exists_document isWritten
    exact ⟨document, rfl, document.isSpelledBy_toValue⟩
  · exact readForm_alike spelled document.isSpelledBy_toValue strict supply

/-- A form that asks for an address where somebody wants to be called back. -/
def callbackForm : Form where
  id := "s"
  title := .str "Feedback"
  description := .str ""
  created := some .startOf2024
  updated := none
  fields := [
    { type := .radio, label := .str "Call back?", id := "call", order := .int 0,
      options := [⟨"yes", "yes"⟩, ⟨"No, thanks", "no"⟩] },
    { type := .text, label := .str "Where?", id := "where", order := .int 1,
      validationRules := [
        .proper { kind := .known .emailFormat, message := .str "No address" },
        .proper { kind := .known .maxLength, parameter := .int 80 }],
      conditionalRules := [.proper { trigger := .str "call", comparison := .str "yes" }] }]

/-- What its document says. -/
def callbackDocument : FormDocument where
  id := .str "s"
  title := .str "Feedback"
  description := .str ""
  settings := ({} : Settings).toDocument
  created := .str "2024-01-01T00:00:00+00:00"
  updated := .null
  fields := [
    { id := .str "call", type := .str "radio", label := .str "Call back?", placeholder := .null,
      description := .null, required := .bool false,
      options := [⟨.str "yes", .str "yes"⟩, ⟨.str "No, thanks", .str "no"⟩],
      validationRules := [], conditionalRules := [], order := .int 0, defaultValue := .null },
    { id := .str "where", type := .str "text", label := .str "Where?", placeholder := .null,
      description := .null, required := .bool false, options := [],
      validationRules := [⟨.str "emailFormat", .null, .str "No address"⟩,
        ⟨.str "maxLength", .int 80, .str ""⟩],
      conditionalRules := [⟨.str "call", .str "equals", .str "yes"⟩], order := .int 1,
      defaultValue := .null }]

/-- The document from a wrapped export, in which names of both dialects are mixed. -/
def olderCallbackDocument : Value :=
  .record [
    ("exportedAt", .int 1704067200),
    ("form", .record [
      ("title", .str "Feedback"), ("description", .str ""), ("id", .str "s"),
      ("createdAt", .str "2024-01-01T00:00:00+00:00"), ("updated", .null),
      ("settings", ({} : Settings).toDocument)]),
    ("fields", .list [
      .record [
        ("id", .str "call"), ("type", .str "radio"), ("label", .str "Call back?"),
        ("placeholder", .null), ("description", .null), ("required", .bool false),
        ("options", .list [
          .str "yes", .record [("label", .str "No, thanks"), ("value", .str "no")]]),
        ("validation", .list []), ("conditionalRules", .list []), ("order", .int 0),
        ("defaultValue", .null)],
      .record [
        ("id", .str "where"), ("type", .str "text"), ("label", .str "Where?"),
        ("placeholder", .null), ("description", .null), ("required", .bool false),
        ("options", .list []),
        ("validationRules", .list [
          .record [("type", .str "email"), ("parameter", .null), ("message", .str "No address")],
          .record [("kind", .str "maxLength"), ("value", .int 80), ("message", .str "")]]),
        ("conditionalRules", .list [
          .record [("fieldId", .str "call"), ("operator", .str "equals"), ("value", .str "yes")]]),
        ("order", .int 1), ("defaultValue", .null)]])]

/-- The export gives the form that the document of the form gives. -/
theorem readForm_of_isSpelledBy_callback :
    let supply : Supply := ⟨.counting "f", .still .startOf2024⟩
    callbackForm.toDocument = .ok callbackDocument.toValue ∧
      (∃ document : FormDocument, document.toValue = callbackDocument.toValue ∧
        document.IsSpelledBy callbackDocument.toValue) ∧
      callbackDocument.IsSpelledBy olderCallbackDocument ∧
      ∃ form, (readForm true supply olderCallbackDocument).result = .ok form ∧
        (readForm true supply callbackDocument.toValue).result = .ok form := by
  intro supply
  obtain ⟨ofWritten, readAlike⟩ := readForm_of_isSpelledBy
  have isWritten : callbackForm.toDocument = .ok callbackDocument.toValue := rfl
  have spelled : callbackDocument.IsSpelledBy olderCallbackDocument := by
    refine .wrapped rfl ⟨rfl, rfl, rfl, rfl, .named_before rfl rfl, .named rfl⟩ rfl
      (.cons ⟨_, rfl, ?call⟩ (.cons ⟨_, rfl, ?address⟩ .nil))
    case call =>
      exact ⟨rfl, rfl, rfl, rfl, rfl, rfl,
        ⟨_, rfl, .cons (.plain "yes") (.cons (.labelled rfl rfl) .nil)⟩,
        ⟨_, .named_before rfl rfl, .nil⟩, ⟨_, rfl, .nil⟩, rfl, rfl⟩
    case address =>
      have email : RuleDocument.IsSpelledBy ⟨.str "emailFormat", .null, .str "No address"⟩
          (.record [("type", .str "email"), ("parameter", .null),
            ("message", .str "No address")]) :=
        ⟨_, rfl, ⟨_, .email, .named_before rfl rfl⟩, .named rfl, rfl⟩
      have short : RuleDocument.IsSpelledBy ⟨.str "maxLength", .int 80, .str ""⟩
          (.record [("kind", .str "maxLength"), ("value", .int 80), ("message", .str "")]) :=
        ⟨_, rfl, ⟨_, .same _, .named rfl⟩, .named_before rfl rfl, rfl⟩
      have called : ConditionDocument.IsSpelledBy ⟨.str "call", .str "equals", .str "yes"⟩
          (.record [("fieldId", .str "call"), ("operator", .str "equals"),
            ("value", .str "yes")]) :=
        ⟨_, rfl, .named_before rfl rfl, rfl, .named_before rfl rfl⟩
      exact ⟨rfl, rfl, rfl, rfl, rfl, rfl, ⟨_, rfl, .nil⟩,
        ⟨_, .named rfl, .cons email (.cons short .nil)⟩, ⟨_, rfl, .cons called .nil⟩, rfl, rfl⟩
  have succeeds : (readForm true supply olderCallbackDocument).result.isOk = true := by
    decide +kernel
  obtain ⟨form, read⟩ := Result.exists_of_isOk succeeds
  have same := (readAlike callbackDocument olderCallbackDocument spelled true supply).result
  rw [read] at same
  generalize (readForm true supply callbackDocument.toValue).result = result at same ⊢
  cases same
  exact ⟨isWritten, ofWritten callbackForm _ isWritten, spelled, form, read, rfl⟩

end FormEngine
