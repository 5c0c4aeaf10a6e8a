import FormEngine.Document.Format
import FormEngine.Proofs.Document.Checks
import FormEngine.Proofs.Value.Spelling
import FormEngine.Proofs.Yaml.Reading
import FormEngine.Yaml.Library

/-!
# Failures that escape the importer

Whatever is wrong with a document should be reported as a fault of documents. Four kinds of
documents escape this rule: those whose times or whose id hold an integer too long to be written,
those with a field whose position is infinite, and those with a pattern that is refused rather than
found to be no pattern. They fail with a bad value or an overflow, and nothing else escapes. Texts
escape if they stand for such documents, and those in YAML also if the library that reads them fails
with a fault of its own. The library that comes with the engine does so on texts with a number, a
timestamp or a truth value that is none.
-/

namespace FormEngine

/-- A time escapes exactly if it holds an overlong integer, which the fault would have to name. -/
theorem escapes_readTime?_iff (document : Value) :
    Escapes (readTime? document) ↔ document.hasOverlong = true := by
  unfold readTime?
  split
  · simp [Value.hasOverlong]
  · simp [Value.hasOverlong]
  · simp [Value.hasOverlong]
  · split
    next moment read =>
      obtain ⟨text, spelled, -⟩ := Option.bind_eq_some_iff.mp read
      have short : document.hasOverlong = false := by
        cases isSpelled : document.spell with
        | error fault =>
          rw [isSpelled] at spelled
          cases spelled
        | ok spelling => exact (Value.spell_eq_ok_iff.mp isSpelled).1
      simp [short]
    next =>
      by_cases overlong : document.hasOverlong = true
      · simp [Fault.told, Fault.named?, overlong, Fault.category]
      · simp [Fault.told, Fault.named?, overlong, Fault.category]

/-- Times of which the first that can not be read holds an overlong integer. -/
def Entries.TimesEscape (entries : Entries) : Prop :=
  (entries.partOrLegacy "created" "createdAt").hasOverlong = true ∨
    (∃ created, readTime? (entries.partOrLegacy "created" "createdAt") = .ok created) ∧
      (entries.partOrLegacy "updated" "updatedAt").hasOverlong = true

/-- The header escapes exactly if its times do. -/
theorem escapes_readHeader_iff (now : DateTime) (entries : Entries) :
    Escapes (readHeader now entries) ↔ entries.TimesEscape := by
  have settings : ¬Escapes (readSettings entries) := by
    unfold readSettings
    split <;> simp [Fault.category]
  simp only [readHeader, readTimes, Result.failsAs_bind_iff, escapes_readTime?_iff, settings,
    Result.pure_eq_ok, Result.not_failsAs_ok, Entries.TimesEscape]
  simp

/-- The only faults of a header are that a time can not be read and that settings are no map. -/
theorem category_of_readHeader {now : DateTime} {entries : Entries} {fault : Fault}
    (fails : readHeader now entries = .error fault) :
    fault.category = .schemaImport ∨ fault.category = .badValue := by
  have told (value : Value) : (Fault.told (.invalidTimestamp value)).category = .schemaImport ∨
      (Fault.told (.invalidTimestamp value)).category = .badValue := by
    unfold Fault.told
    split
    · exact .inr rfl
    · exact .inl rfl
  have time {value : Value} {fault : Fault} (timeFails : readTime? value = .error fault) :
      fault.category = .schemaImport ∨ fault.category = .badValue := by
    unfold readTime? at timeFails
    split at timeFails
    · cases timeFails
    · cases timeFails
    · cases timeFails
    · split at timeFails
      · cases timeFails
      · cases timeFails
        exact told value
  simp only [readHeader, readTimes, Result.bind_eq_error_iff] at fails
  rcases fails with (createdFails | ⟨_, -, updatedFails | ⟨_, -, done⟩⟩) | ⟨_, -, settingsFail | rest⟩
  · exact time createdFails
  · exact time updatedFails
  · cases done
  · unfold readSettings at settingsFail
    split at settingsFail
    · cases settingsFail
    · cases settingsFail
    · cases settingsFail
      exact .inl rfl
  · obtain ⟨_, -, done⟩ := rest
    cases done

/-- An id is claimed unless it holds an overlong integer. -/
theorem claimId_eq (entries : Entries) (supply : Supply) :
    (∃ id rest, (entries.part "id").hasOverlong = false ∧
        claimId entries supply = (.ok id, rest)) ∨
      (entries.part "id").hasOverlong = true ∧
        claimId entries supply = (.error .integerUnwritten, supply) := by
  by_cases overlong : (entries.part "id").hasOverlong = true
  · have counts := Value.truthy_of_hasOverlong overlong
    exact .inr ⟨overlong, by simp [claimId, counts, Value.spell, overlong]⟩
  · have short : (entries.part "id").hasOverlong = false := by simpa using overlong
    by_cases counts : (entries.part "id").truthy = true
    · exact .inl ⟨(entries.part "id").text, supply, short, by
        simp [claimId, counts, Value.spell, short]⟩
    · exact .inl ⟨_, _, short, by rw [claimId, if_neg counts]⟩

/-- The id escapes exactly if it holds an overlong integer. -/
theorem escapes_claimId_iff (entries : Entries) (supply : Supply) :
    Escapes (claimId entries supply).1 ↔ (entries.part "id").hasOverlong = true := by
  rcases claimId_eq entries supply with ⟨id, rest, short, claimed⟩ | ⟨overlong, claimed⟩
  · simp [claimed, short]
  · simp [claimed, overlong, Fault.category]

/-- The only fault of an id is a bad value. -/
theorem category_of_claimId {entries : Entries} {supply : Supply} {fault : Fault}
    (fails : (claimId entries supply).1 = .error fault) : fault.category = .badValue := by
  rcases claimId_eq entries supply with ⟨id, rest, -, claimed⟩ | ⟨-, claimed⟩
  · rw [claimed] at fails
    cases fails
  · rw [claimed] at fails
    cases fails
    rfl

/-- Opening a document fails with a fault of documents. -/
theorem not_escapes_openForm (strict : Bool) (document : Value) :
    ¬Escapes (openForm strict document) := by
  unfold openForm
  split
  · dsimp only
    split
    · split <;> simp [Fault.category]
    · simp
    · simp [Fault.category]
  · simp [Fault.category]

/-- Whether a fault inside a field is reported as a fault of the document. -/
def Fault.isCaught (fault : Fault) : Bool :=
  match fault.category with
  | .engine | .overflow | .missingPlace => false
  | _ => true

/-- A failure inside a field that is not reported as one of documents. -/
abbrev Uncaught {α : Type} (result : Except Fault α) : Prop :=
  Result.FailsAs (·.isCaught = false) result

/-- Telling a fault does not change whether it is caught. -/
@[simp] theorem Fault.isCaught_told (fault : Fault) : fault.told.isCaught = fault.isCaught := by
  unfold told
  split
  next named => cases fault <;> first | rfl | cases named
  next => rfl

/-- A fault is reported as one of documents exactly if it is caught. -/
theorem category_atField_iff (index : Nat) (fault : Fault) :
    (fault.atField index).category ≠ .schemaImport ↔ fault.isCaught = false := by
  rw [← fault.isCaught_told, Fault.isCaught]
  unfold Fault.atField
  split <;> simp_all [Fault.category]

/-- A part that should be a list fails with the wrong kind. -/
theorem not_uncaught_partItems (part : Value) : ¬Uncaught (partItems part) := by
  unfold partItems
  split
  · simp
  · split <;> simp [Fault.isCaught, Fault.category]

/-- Options fail in ways that are caught. -/
theorem not_uncaught_readChoice (document : Value) : ¬Uncaught (readChoice document) := by
  cases document with
  | map entries =>
    simp only [readChoice]
    split
    · simp [Fault.isCaught, Fault.category]
    · simp [Result.failsAs_bind_iff, Value.failsAs_spell_iff, Fault.isCaught, Fault.category]
  | _ => simp [readChoice, Result.failsAs_bind_iff, Value.failsAs_spell_iff, Fault.isCaught,
      Fault.category]

/-- A rule that is no map has no parts. -/
theorem not_uncaught_partEntries (document : Value) : ¬Uncaught (partEntries document) := by
  cases document <;> simp [partEntries, Fault.isCaught, Fault.category]

/-- Validation rules fail in ways that are caught. -/
theorem not_uncaught_readValidationRule (document : Value) :
    ¬Uncaught (readValidationRule document) := by
  have kinds (kind : Value) : ¬Uncaught (Recognised.ruleKind kind) := by
    unfold Recognised.ruleKind
    split
    · simp [Fault.isCaught, Fault.category]
    · split <;> simp
  simp only [readValidationRule, Result.failsAs_bind_iff, not_uncaught_partEntries, false_or]
  rintro ⟨entries, -, fails⟩
  split at fails
  · simp [Fault.isCaught, Fault.category] at fails
  · simp [Result.failsAs_bind_iff, kinds] at fails

/-- Conditional rules fail in ways that are caught. -/
theorem not_uncaught_readConditionalRule (document : Value) :
    ¬Uncaught (readConditionalRule document) := by
  simp only [readConditionalRule, Result.failsAs_bind_iff, not_uncaught_partEntries, false_or]
  rintro ⟨entries, -, fails⟩
  split at fails
  · simp [Fault.isCaught, Fault.category] at fails
  · simp [Result.failsAs_bind_iff, Value.failsAs_spell_iff, Fault.isCaught, Fault.category] at fails

/-- A position is not caught exactly if it is infinite. -/
theorem uncaught_readPosition_iff (document : Value) :
    Uncaught (readPosition document) ↔ ∃ negative, document = .float (.infinite negative) := by
  cases document with
  | float number =>
    cases number <;> simp [readPosition, Fault.isCaught, Fault.category]
  | str text =>
    simp only [readPosition, readInteger]
    split
    · simp [Fault.isCaught, Fault.category]
    · split <;> simp [Fault.isCaught, Fault.category]
  | _ => simp [readPosition, Fault.isCaught, Fault.category]

/-- All parts of a field but its type and its position can be read. -/
structure Entries.PartsRead (entries : Entries) : Prop where
  id : (entries.part "id").hasOverlong = false
  options : ∃ items choices, partItems (entries.part "options") = .ok items ∧
    items.mapM readChoice = .ok choices
  validationRules : ∃ rules,
    (validationRuleDocuments entries).mapM readValidationRule = .ok rules
  conditionalRules : ∃ items rules, partItems (entries.part "conditionalRules") = .ok items ∧
    items.mapM readConditionalRule = .ok rules

/-- A document that a field can be read from. -/
def IsFieldDocument (document : Value) : Prop :=
  ∃ entries type position, openField document = .ok (entries, type) ∧ entries.PartsRead ∧
    readPosition (entries.part "order") = .ok position

/-- A document that a field could be read from if its position were not infinite. -/
def IsInfinitelyFar (document : Value) : Prop :=
  ∃ entries type negative, openField document = .ok (entries, type) ∧ entries.PartsRead ∧
    entries.part "order" = .float (.infinite negative)

/-- The content of a field can be read exactly if its parts and its position can. -/
theorem readContent_ok_iff {entries : Entries} (short : (entries.part "id").hasOverlong = false)
    (type : FieldType) (id : String) :
    (∃ placed, readContent entries type id = .ok placed) ↔
      entries.PartsRead ∧ ∃ position, readPosition (entries.part "order") = .ok position := by
  simp only [readContent, Result.bind_eq_ok_iff]
  constructor
  · rintro ⟨_, items, isItems, choices, isChoices, rules, isRules, others, isOthers, conditions,
      isConditions, position, isPosition, -⟩
    exact ⟨⟨short, ⟨items, choices, isItems, isChoices⟩, ⟨rules, isRules⟩,
      ⟨others, conditions, isOthers, isConditions⟩⟩, position, isPosition⟩
  · rintro ⟨⟨-, ⟨items, choices, isItems, isChoices⟩, ⟨rules, isRules⟩,
      ⟨others, conditions, isOthers, isConditions⟩⟩, position, isPosition⟩
    exact ⟨_, items, isItems, choices, isChoices, rules, isRules, others, isOthers, conditions,
      isConditions, position, isPosition, rfl⟩

/-- The content of a field fails uncaught exactly as its position does, if nothing else is wrong. -/
theorem failsAs_readContent_iff {holds : Fault → Prop}
    (uncaught : ∀ fault, holds fault → fault.isCaught = false) {entries : Entries}
    (short : (entries.part "id").hasOverlong = false) (type : FieldType) (id : String) :
    Result.FailsAs holds (readContent entries type id) ↔
      entries.PartsRead ∧ Result.FailsAs holds (readPosition (entries.part "order")) := by
  have misses {α : Type} {result : Except Fault α} (caught : ¬Uncaught result) :
      Result.FailsOnly (¬holds ·) result := fun fault fails holdsOf =>
    caught ⟨fault, fails, uncaught fault holdsOf⟩
  have lists (part : Value) : ¬Result.FailsAs holds (partItems part) :=
    (misses (not_uncaught_partItems part)).not_failsAs
  have choices (items : List Value) : ¬Result.FailsAs holds (items.mapM readChoice) :=
    (Result.failsOnly_mapM fun item _ => misses (not_uncaught_readChoice item)).not_failsAs
  have rules (items : List Value) : ¬Result.FailsAs holds (items.mapM readValidationRule) :=
    (Result.failsOnly_mapM fun item _ => misses (not_uncaught_readValidationRule item)).not_failsAs
  have conditions (items : List Value) :
      ¬Result.FailsAs holds (items.mapM readConditionalRule) :=
    (Result.failsOnly_mapM fun item _ =>
      misses (not_uncaught_readConditionalRule item)).not_failsAs
  simp only [readContent, Result.failsAs_bind_iff, lists, choices, rules, conditions,
    Result.pure_eq_ok, Result.not_failsAs_ok, false_or, and_false, exists_false, or_false]
  constructor
  · rintro ⟨items, isItems, choices, isChoices, rules, isRules, others, isOthers, conditions,
      isConditions, fails⟩
    exact ⟨⟨short, ⟨items, choices, isItems, isChoices⟩, ⟨rules, isRules⟩,
      ⟨others, conditions, isOthers, isConditions⟩⟩, fails⟩
  · rintro ⟨⟨-, ⟨items, choices, isItems, isChoices⟩, ⟨rules, isRules⟩,
      ⟨others, conditions, isOthers, isConditions⟩⟩, fails⟩
    exact ⟨items, isItems, choices, isChoices, rules, isRules, others, isOthers, conditions,
      isConditions, fails⟩

/-- Opening the document of a field fails in ways that are caught. -/
theorem not_uncaught_openField (document : Value) : ¬Uncaught (openField document) := by
  have types (word : Value) : ¬Uncaught (FieldType.ofValue word) := by
    unfold FieldType.ofValue
    split
    · simp
    · simp [Fault.isCaught_told]
      rfl
  cases document with
  | map entries =>
    simp only [openField]
    split
    · simp [Fault.isCaught, Fault.category]
    · simp [Result.failsAs_bind_iff, types]
  | _ => simp [openField, Fault.isCaught, Fault.category]

/-- Whether a field can be read does not depend on the ids that are left. -/
theorem readField_ok_iff (document : Value) (supply : Supply) :
    (∃ placed, (readField supply document).1 = .ok placed) ↔ IsFieldDocument document := by
  unfold readField IsFieldDocument
  cases opened : openField document with
  | error fault => simp
  | ok parts =>
    obtain ⟨entries, type⟩ := parts
    rcases claimId_eq entries supply with ⟨id, rest, short, claimed⟩ | ⟨overlong, claimed⟩
    · simp [claimed, readContent_ok_iff short]
    · have notRead : ¬entries.PartsRead := fun reads => by
        rw [reads.id] at overlong
        cases overlong
      simp [claimed, notRead]

/-- A field fails uncaught exactly as its position does, if nothing else is wrong. -/
theorem failsAs_readField_iff {holds : Fault → Prop}
    (uncaught : ∀ fault, holds fault → fault.isCaught = false) (document : Value)
    (supply : Supply) :
    Result.FailsAs holds (readField supply document).1 ↔
      ∃ entries type, openField document = .ok (entries, type) ∧ entries.PartsRead ∧
        Result.FailsAs holds (readPosition (entries.part "order")) := by
  unfold readField
  cases opened : openField document with
  | error fault =>
    have other : ¬holds fault := fun holdsOf =>
      not_uncaught_openField document ⟨fault, opened, uncaught fault holdsOf⟩
    simpa using other
  | ok parts =>
    obtain ⟨entries, type⟩ := parts
    rcases claimId_eq entries supply with ⟨id, rest, short, claimed⟩ | ⟨overlong, claimed⟩
    · simp [claimed, failsAs_readContent_iff uncaught short]
    · have notRead : ¬entries.PartsRead := fun reads => by
        rw [reads.id] at overlong
        cases overlong
      have other : ¬holds .integerUnwritten := fun holdsOf => by
        cases uncaught _ holdsOf
      simp [claimed, notRead, other]

/-- A field fails uncaught exactly if its position is infinite and nothing else is wrong. -/
theorem uncaught_readField_iff (document : Value) (supply : Supply) :
    Uncaught (readField supply document).1 ↔ IsInfinitelyFar document := by
  refine (failsAs_readField_iff (fun _ uncaught => uncaught) document supply).trans ?_
  simp [uncaught_readPosition_iff, IsInfinitelyFar]

/-- Fields escape exactly if the first document that no field can be read from has an infinite
position and nothing else that is wrong. -/
theorem escapes_readFields_iff (supply : Supply) (index : Nat) (documents : List Value) :
    Escapes (readFields supply index documents).1 ↔
      ∃ before document after, documents = before ++ document :: after ∧
        (∀ other ∈ before, IsFieldDocument other) ∧ IsInfinitelyFar document := by
  induction documents generalizing supply index with
  | nil => simp [readFields]
  | cons document rest inductionHypothesis =>
    rw [exists_split_cons_iff]
    have uncaught := uncaught_readField_iff document supply
    have reads := readField_ok_iff document supply
    rcases isRead : readField supply document with ⟨result, left⟩
    rw [isRead] at uncaught reads
    cases result with
    | error fault =>
      have notField : ¬IsFieldDocument document := by simpa using reads
      simp only [readFields, isRead, Result.failsAs_error_iff, category_atField_iff] at uncaught ⊢
      simp [uncaught, notField]
    | ok placed =>
      have isField : IsFieldDocument document := by simpa using reads
      have near : ¬IsInfinitelyFar document := by simpa using uncaught
      simp only [readFields, isRead, Result.failsAs_map_iff, inductionHypothesis]
      simp [isField, near]

/-- A fault of fields is one of documents or an overflow. -/
theorem category_of_readFields {supply : Supply} {index : Nat} {documents : List Value}
    {fault : Fault} (fails : (readFields supply index documents).1 = .error fault) :
    fault.category = .schemaImport ∨ fault.category = .overflow := by
  induction documents generalizing supply index with
  | nil => cases fails
  | cons document rest inductionHypothesis =>
    rcases isRead : readField supply document with ⟨result, left⟩
    cases result with
    | error cause =>
      simp only [readFields, isRead, Except.error.injEq] at fails
      subst fails
      by_cases caught : cause.isCaught = false
      · have position : ¬Result.FailsAs
            (fun fault => fault.isCaught = false ∧ fault ≠ .infinityToInteger)
            (readField supply document).1 := by
          rw [failsAs_readField_iff fun _ other => other.1]
          rintro ⟨entries, type, -, -, fault, failsThere, uncaught, other⟩
          obtain ⟨negative, infinite⟩ :=
            (uncaught_readPosition_iff _).mp ⟨fault, failsThere, uncaught⟩
          rw [infinite] at failsThere
          cases failsThere
          exact other rfl
        have same : cause = .infinityToInteger := by
          by_contra other
          exact position ⟨cause, by rw [isRead], caught, other⟩
        rw [same]
        exact .inr rfl
      · have documented : ¬(cause.atField index).category ≠ .schemaImport := by
          rw [category_atField_iff]
          exact caught
        exact .inl (not_not.mp documented)
    | ok placed =>
      simp only [readFields, isRead, Result.map_eq_error_iff] at fails
      exact inductionHypothesis fails

/-- The faults of patterns that are refused are none of documents. -/
theorem category_of_refused {parameter : Value} {fault : Fault}
    (refused : patternStatus parameter = .refused fault) :
    fault.category = .badValue ∨ fault.category = .overflow := by
  unfold patternStatus at refused
  split at refused
  · cases refused
  · split at refused
    next spelling isSpelled =>
      cases refused
      simp only [Value.spell] at isSpelled
      split at isSpelled
      · cases isSpelled
        exact .inl rfl
      · cases isSpelled
    next => split at refused <;> cases refused <;> simp [Fault.category]

/-- A pattern that fails the check is refused. -/
theorem exists_refused {fieldId : String} {rules : List (Entry ValidationRule)} {fault : Fault}
    (fails : (checkPatterns fieldId rules).result = .error fault) :
    ∃ rule, .proper rule ∈ rules ∧ ¬rule.PatternReads ∧
      patternStatus rule.parameter = .refused fault := by
  induction rules with
  | nil => cases fails
  | cons entry rest inductionHypothesis =>
    have later (restFails : (checkPatterns fieldId rest).result = .error fault) :
        ∃ rule, .proper rule ∈ entry :: rest ∧ ¬rule.PatternReads ∧
          patternStatus rule.parameter = .refused fault := by
      obtain ⟨rule, member, refused⟩ := inductionHypothesis restFails
      exact ⟨rule, .tail _ member, refused⟩
    cases entry with
    | stray value => exact later fails
    | proper rule =>
      simp only [checkPatterns] at fails
      split at fails
      case h_1 => exact later fails
      case h_2 other isPattern refused =>
        cases fails
        exact ⟨rule, .head _, fun reads => reads isPattern _ refused, refused⟩
      case h_3 => exact later fails

/-- A field with a pattern that is refused. -/
def PlacedField.IsRefused (field : PlacedField) : Prop :=
  ∃ rule, .proper rule ∈ field.validationRules ∧ ¬rule.PatternReads

/-- Patterns escape exactly if one is refused. -/
theorem escapes_checkPatterns_iff (field : PlacedField) :
    Escapes (checkPatterns field.id field.validationRules).result ↔ field.IsRefused := by
  constructor
  · rintro ⟨fault, fails, -⟩
    obtain ⟨rule, member, refused, -⟩ := exists_refused fails
    exact ⟨rule, member, refused⟩
  · rintro ⟨rule, member, refused⟩
    cases result : (checkPatterns field.id field.validationRules).result with
    | ok value => exact absurd (result_checkPatterns_eq_ok_iff.mp result rule member) refused
    | error fault =>
      obtain ⟨other, -, -, isRefused⟩ := exists_refused result
      rcases category_of_refused isRefused with bad | overflow
      · simp [bad]
      · simp [overflow]

/-- The checks escape exactly if the first field that fails them has an id and options as it should,
but a pattern that is refused. -/
theorem escapes_checkFields_iff (seen : List String) (fields : List PlacedField) :
    Escapes (checkFields seen fields).result ↔
      ∃ before field after, fields = before ++ field :: after ∧
        (checkFields seen before).result = .ok () ∧ field.id ∉ seen ++ before.map (·.id) ∧
        (field.type.isChoice = true → field.options ≠ []) ∧ field.IsRefused := by
  induction fields generalizing seen with
  | nil => simp [checkFields]
  | cons field rest inductionHypothesis =>
    rw [exists_split_cons_iff]
    simp only [result_checkFields_cons_eq_ok_iff]
    rcases checkFields_cons seen field rest with ⟨isSeen, found⟩ | ⟨-, isChoice, bare, found⟩ |
      ⟨notSeen, options, ⟨fault, refused⟩, found⟩ | ⟨notSeen, passes, found⟩
    · simp [found, isSeen, Fault.category]
    · have fails : ¬field.Passes := fun passes => passes.options isChoice bare
      simp [found, isChoice, bare, fails, Fault.category]
    · have isRefused : field.IsRefused := by
        obtain ⟨rule, member, ruleRefused, -⟩ := exists_refused refused
        exact ⟨rule, member, ruleRefused⟩
      simp only [found, (escapes_checkPatterns_iff field).mpr isRefused, true_iff]
      exact .inl ⟨rfl, by simpa using notSeen, options, isRefused⟩
    · have notRefused : ¬field.IsRefused := by
        rintro ⟨rule, member, refused⟩
        exact refused (passes.patterns rule member)
      have moved (id : String) (before : List PlacedField) :
          id ∉ field.id :: seen ++ before.map (·.id) ↔
            id ∉ seen ++ (field :: before).map (·.id) := by
        simp only [List.cons_append, List.mem_cons, List.map_cons, List.mem_append, not_or]
        tauto
      simp only [found, Findings.after, inductionHypothesis, notRefused, and_false, false_or, moved,
        notSeen, passes, not_false_eq_true, true_and]

/-- A fault of the checks is one of documents, or that of a refused pattern. -/
theorem category_of_checkFields {seen : List String} {fields : List PlacedField} {fault : Fault}
    (fails : (checkFields seen fields).result = .error fault) :
    fault.category = .schemaImport ∨ fault.category = .badValue ∨ fault.category = .overflow := by
  induction fields generalizing seen with
  | nil => cases fails
  | cons field rest inductionHypothesis =>
    rcases checkFields_cons seen field rest with ⟨-, found⟩ | ⟨-, -, -, found⟩ | ⟨-, -, -, found⟩ |
      ⟨-, -, found⟩
    · rw [found] at fails
      cases fails
      exact .inl rfl
    · rw [found] at fails
      cases fails
      exact .inl rfl
    · rw [found] at fails
      obtain ⟨rule, -, -, refused⟩ := exists_refused fails
      exact .inr (category_of_refused refused)
    · rw [found] at fails
      exact inductionHypothesis fails

/-- The documents that escape the importer, by what escapes. -/
inductive DocumentEscapes (strict : Bool) (supply : Supply) (document : Value) : Prop where
  /-- A time can not be named. -/
  | time {entries : Entries} {documents : List Value}
      (opened : openForm strict document = .ok (entries, documents))
      (escape : entries.TimesEscape)
  /-- The id of the form has no text. -/
  | id {entries : Entries} {documents : List Value} {header : String → FormHeader}
      (opened : openForm strict document = .ok (entries, documents))
      (headerRead : readHeader supply.now.1 entries = .ok header)
      (overlong : (entries.part "id").hasOverlong = true)
  /-- The position of a field is no integer. -/
  | position {entries : Entries} {documents before after : List Value}
      {header : String → FormHeader} {field : Value}
      (opened : openForm strict document = .ok (entries, documents))
      (headerRead : readHeader supply.now.1 entries = .ok header)
      (short : (entries.part "id").hasOverlong = false)
      (split : documents = before ++ field :: after)
      (fields : ∀ other ∈ before, IsFieldDocument other)
      (far : IsInfinitelyFar field)
  /-- A pattern of a field is refused. -/
  | pattern {entries : Entries} {documents : List Value} {header : String → FormHeader}
      {id : String} {claimed rest : Supply} {fields before after : List PlacedField}
      {field : PlacedField}
      (opened : openForm strict document = .ok (entries, documents))
      (headerRead : readHeader supply.now.1 entries = .ok header)
      (claim : claimId entries supply.now.2 = (.ok id, claimed))
      (fieldsRead : readFields claimed 0 documents = (.ok fields, rest))
      (split : fields = before ++ field :: after)
      (passed : (checkFields [] before).result = .ok ())
      (fresh : field.id ∉ before.map (·.id))
      (options : field.type.isChoice = true → field.options ≠ [])
      (refused : field.IsRefused)

/-- Reading a form fails at one of its steps, after the steps before it went well. -/
theorem failsAs_readForm_iff {holds : Fault → Prop} (strict : Bool) (supply : Supply)
    (document : Value) :
    Result.FailsAs holds (readForm strict supply document).result ↔
      Result.FailsAs holds (openForm strict document) ∨
      ∃ entries documents, openForm strict document = .ok (entries, documents) ∧
        (Result.FailsAs holds (readHeader supply.now.1 entries) ∨
          ∃ header, readHeader supply.now.1 entries = .ok header ∧
            (Result.FailsAs holds (claimId entries supply.now.2).1 ∨
              ∃ id claimed, claimId entries supply.now.2 = (.ok id, claimed) ∧
                (Result.FailsAs holds (readFields claimed 0 documents).1 ∨
                  ∃ fields rest, readFields claimed 0 documents = (.ok fields, rest) ∧
                    Result.FailsAs holds (checkFields [] fields).result))) := by
  cases opened : openForm strict document with
  | error fault => simp [readForm, opened]
  | ok parts =>
    obtain ⟨entries, documents⟩ := parts
    cases headerRead : readHeader supply.now.1 entries with
    | error fault => simp [readForm, opened, headerRead]
    | ok header =>
      rcases claim : claimId entries supply.now.2 with ⟨claimResult, claimed⟩
      cases claimResult with
      | error fault => simp [readForm, opened, headerRead, claim]
      | ok id =>
        rcases fieldsRead : readFields claimed 0 documents with ⟨fieldsResult, rest⟩
        cases fieldsResult with
        | error fault => simp [readForm, opened, headerRead, claim, fieldsRead]
        | ok fields => simp [readForm, opened, headerRead, claim, fieldsRead]

/-- Reading a form escapes exactly on the documents that do. -/
theorem escapes_readForm_iff (strict : Bool) (supply : Supply) (document : Value) :
    Escapes (readForm strict supply document).result ↔
      DocumentEscapes strict supply document := by
  rw [Escapes, failsAs_readForm_iff]
  simp only [not_escapes_openForm, false_or, escapes_readHeader_iff, escapes_claimId_iff,
    escapes_readFields_iff, escapes_checkFields_iff]
  constructor
  · rintro ⟨entries, documents, opened, escape | ⟨header, headerRead, overlong | ⟨id, claimed, claim,
      ⟨before, field, after, split, fields, far⟩ | ⟨fields, rest, fieldsRead, before, field, after,
        split, passed, fresh, options, refused⟩⟩⟩⟩
    · exact .time opened escape
    · exact .id opened headerRead overlong
    · have short : (entries.part "id").hasOverlong = false := by
        rcases claimId_eq entries supply.now.2 with ⟨_, _, short, -⟩ | ⟨-, failed⟩
        · exact short
        · rw [claim] at failed
          cases failed
      exact .position opened headerRead short split fields far
    · exact .pattern opened headerRead claim fieldsRead split passed (by simpa using fresh) options
        refused
  · rintro (⟨opened, escape⟩ | ⟨opened, headerRead, overlong⟩ |
      ⟨opened, headerRead, short, split, fields, far⟩ |
      ⟨opened, headerRead, claim, fieldsRead, split, passed, fresh, options, refused⟩)
    · exact ⟨_, _, opened, .inl escape⟩
    · exact ⟨_, _, opened, .inr ⟨_, headerRead, .inl overlong⟩⟩
    · rcases claimId_eq _ supply.now.2 with ⟨id, claimed, -, claim⟩ | ⟨overlong, -⟩
      · exact ⟨_, _, opened, .inr ⟨_, headerRead, .inr ⟨id, claimed, claim,
          .inl ⟨_, _, _, split, fields, far⟩⟩⟩⟩
      · rw [short] at overlong
        cases overlong
    · exact ⟨_, _, opened, .inr ⟨_, headerRead, .inr ⟨_, _, claim,
        .inr ⟨_, _, fieldsRead, _, _, _, split, passed, by simpa using fresh, options, refused⟩⟩⟩⟩

/-- A fault of a document is reported as such, or it is a bad value or an overflow. -/
theorem category_of_readForm {strict : Bool} {supply : Supply} {document : Value} {fault : Fault}
    (fails : (readForm strict supply document).result = .error fault) :
    fault.category ∈ [.schemaImport, .badValue, .overflow] := by
  simp only [List.mem_cons, List.not_mem_nil, or_false]
  by_contra other
  have failure : Result.FailsAs (fun fault => ¬(fault.category = .schemaImport ∨
      fault.category = .badValue ∨ fault.category = .overflow))
      (readForm strict supply document).result := ⟨fault, fails, other⟩
  rcases (failsAs_readForm_iff strict supply document).mp failure with ⟨cause, openFails, other⟩ | ⟨entries, documents, -,
    ⟨cause, headerFails, other⟩ | ⟨header, -, ⟨cause, claimFails, other⟩ | ⟨id, claimed, -,
      ⟨cause, fieldsFail, other⟩ | ⟨fields, rest, -, cause, checksFail, other⟩⟩⟩⟩
  · exact not_escapes_openForm strict document ⟨cause, openFails, fun same => other (.inl same)⟩
  · have category := category_of_readHeader headerFails
    tauto
  · have category := category_of_claimId claimFails
    tauto
  · have category := category_of_readFields fieldsFail
    tauto
  · exact other (category_of_checkFields checksFail)

/-- The pieces of a text, as if all of it stood in a string. -/
def Json.piecesOf : List Char → List Json.Piece
  | [] => []
  | '\\' :: 'u' :: a :: b :: c :: d :: rest =>
    ((Text.ofDigits? 16 [a, b, c, d]).map Json.Piece.unit).toList ++ piecesOf rest
  | '\\' :: letter :: rest => .char letter :: piecesOf rest
  | c :: rest => .char c :: piecesOf rest

/-- Whether a piece is half of a character whose other half is not beside it. -/
def Json.hasLoneHalf : List Json.Piece → Bool
  | [] => false
  | .char _ :: rest => hasLoneHalf rest
  | .unit high :: .unit low :: rest =>
    if Text.isHighHalf high && Text.isLowHalf low then hasLoneHalf rest
    else Text.isHighHalf high || Text.isLowHalf high || hasLoneHalf (.unit low :: rest)
  | .unit code :: rest => Text.isHighHalf code || Text.isLowHalf code || hasLoneHalf rest

/-- A text whose strings hold whole characters. A string with half of a character is replaced by
another one here, which may make equal what differs. -/
def Json.IsWhole (text : String) : Prop :=
  Json.hasLoneHalf (Json.piecesOf text.toList) = false

instance (text : String) : Decidable (Json.IsWhole text) :=
  inferInstanceAs (Decidable (_ = _))

/-- A document in which no pattern speaks of a character by its name. Names are not known here, so
such a pattern passes for none. -/
def Value.IsNameless (document : Value) : Prop :=
  occursIn "\\N\x7b".toList document.display.toList = false

section

variable (strict : Bool) (supply : Supply) (text : String)

/-- A text in JSON escapes exactly if it stands for a document that does. -/
theorem escapes_importForm_json_iff (yaml : YamlLibrary) :
    Escapes (importForm .json yaml strict supply (.str text)).result ↔
      ∃ document, Json.read text = some document ∧ DocumentEscapes strict supply document := by
  cases read : Json.read text with
  | none => simp [importForm, Format.read, read, Fault.category]
  | some document => simp [importForm, Format.read, read, escapes_readForm_iff]

/-- A text in YAML escapes exactly if the library fails with a fault of its own or finds a document
that escapes. -/
theorem escapes_importForm_yaml_iff (yaml : YamlLibrary) :
    Escapes (importForm .yaml yaml strict supply (.str text)).result ↔
      (∃ fault, yaml.read (.str text) = .error (.own fault) ∧ fault.category ≠ .schemaImport) ∨
        ∃ document, yaml.read (.str text) = .ok document ∧
          DocumentEscapes strict supply document := by
  rcases read : yaml.read (.str text) with failure | document
  · cases failure <;> simp [importForm, Format.read, read, Fault.category]
  · simp [importForm, Format.read, read, escapes_readForm_iff]

variable {strict supply text} {fault : Fault}

/-- A fault of a text in JSON is reported as one of documents, or it is a bad value or an
overflow. -/
theorem category_of_importForm_json {yaml : YamlLibrary}
    (fails : (importForm .json yaml strict supply (.str text)).result = .error fault) :
    fault.category ∈ [.schemaImport, .badValue, .overflow] := by
  cases read : Json.read text with
  | none =>
    simp only [importForm, Format.read, read, Except.error.injEq] at fails
    simp [← fails, Fault.category]
  | some document =>
    simp only [importForm, Format.read, read] at fails
    exact category_of_readForm fails

/-- So is one of a text in YAML, unless it is the library's own. -/
theorem category_of_importForm_yaml {yaml : YamlLibrary}
    (fails : (importForm .yaml yaml strict supply (.str text)).result = .error fault) :
    yaml.read (.str text) = .error (.own fault) ∨
      fault.category ∈ [.schemaImport, .badValue, .overflow] := by
  rcases read : yaml.read (.str text) with failure | document
  · cases failure with
    | malformed =>
      simp only [importForm, Format.read, read, Except.error.injEq] at fails
      simp [← fails, Fault.category]
    | own other =>
      simp only [importForm, Format.read, read, Except.error.injEq] at fails
      exact .inl (by rw [fails])
  · simp only [importForm, Format.read, read] at fails
    exact .inr (category_of_readForm fails)

end

/-- With the library that comes with the engine, the texts in YAML that escape are known, and so is
what escapes. -/
theorem Yaml.escapes_importForm_library_iff (strict : Bool) (supply : Supply) (text : String) :
    (Escapes (importForm .yaml library strict supply (.str text)).result ↔
      TextEscapes text ∨
        ∃ document, read text = .ok document ∧ DocumentEscapes strict supply document) ∧
    ∀ fault, (importForm .yaml library strict supply (.str text)).result = .error fault →
      fault.category ∈ [.schemaImport, .badValue, .overflow, .badKind, .missingPart, .missingKey,
        .missingPlace] := by
  refine ⟨?_, fun fault fails => ?_⟩
  · rw [escapes_importForm_yaml_iff, ← escapes_read_iff, ← exists_own_iff]
    simp only [library, load_eq_ok_iff]
  · rcases category_of_importForm_yaml fails with unread | category
    · exact category_of_read (load_eq_own_iff.mp unread).1
    · simp only [List.mem_cons, List.not_mem_nil, or_false] at category ⊢
      tauto

end FormEngine
