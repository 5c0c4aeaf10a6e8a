import FormEngine.Proofs.Document.Escape
import FormEngine.Proofs.Document.Readable
import Mathlib.Data.List.Duplicate

/-!
# Given and drawn ids

A field keeps the id that its document gives. Fields whose documents give none draw their ids from
the source, one after the other, while the ids that later documents give are not known yet, and
nobody looks at those that earlier ones gave. So a drawn id may be one of those that are given.
Where each field can be read on its own and no two documents give one id, this is the only way in
which two fields come to share one, and the only one in which reading the fields fails.
-/

namespace FormEngine

/-- The id that the document of a field gives, if it gives one that counts. -/
def givenId? : Value → Option String
  | .map entries =>
    if (Entries.part entries "id").truthy then some (Entries.part entries "id").text else none
  | _ => none

/-- A document that a field can be read from which has what it must have for the checks. -/
def IsImportable (document : Value) : Prop :=
  ∃ supply placed, (readField supply document).1 = .ok placed ∧ placed.Passes

/-- The ids that fields have, in the order of their documents: given ones, and others that are drawn
one after the other. -/
def claimedIds (ids : IdSource) : List Value → List String
  | [] => []
  | document :: rest =>
    match givenId? document with
    | some id => id :: claimedIds ids rest
    | none => ids.next.1 :: claimedIds ids.next.2 rest

/-- The ids that are drawn for documents that give none. -/
def drawnIds (ids : IdSource) (documents : List Value) : List String :=
  (List.range (documents.countP (givenId? · |>.isNone))).map (ids.stream <| ids.drawn + ·)

theorem drawnIds_cons_none {ids : IdSource} {document : Value}
    (givesNone : givenId? document = none) (rest : List Value) :
    drawnIds ids (document :: rest) = ids.next.1 :: drawnIds ids.next.2 rest := by
  simp [drawnIds, IdSource.next, givesNone, List.range_succ_eq_map, Nat.add_assoc, Nat.add_comm 1]

/-- Ids of fields are those that are given and those that are drawn. -/
theorem claimedIds_perm (ids : IdSource) (documents : List Value) :
    (claimedIds ids documents).Perm (documents.filterMap givenId? ++ drawnIds ids documents) := by
  induction documents generalizing ids with
  | nil => exact .refl _
  | cons document rest inductionHypothesis =>
    cases given : givenId? document with
    | some id =>
      have sameDrawn : drawnIds ids (document :: rest) = drawnIds ids rest := by
        simp [drawnIds, given]
      simpa [claimedIds, given, sameDrawn] using inductionHypothesis ids
    | none =>
      rw [drawnIds_cons_none given]
      simpa [claimedIds, given] using
        ((inductionHypothesis ids.next.2).cons ids.next.1).trans List.perm_middle.symm

/-- A source that never gives an id twice draws distinct ids. -/
theorem nodup_drawnIds {ids : IdSource} (injective : Function.Injective ids.stream)
    (documents : List Value) : (drawnIds ids documents).Nodup :=
  List.nodup_range.map fun _ _ same => Nat.add_left_cancel (injective same)

/-- The content of a field is read in the same way under any id. -/
theorem readContent_withId {entries : Entries} {type : FieldType} {id : String}
    {placed : PlacedField} (read : readContent entries type id = .ok placed) (other : String) :
    readContent entries type other = .ok { placed with id := other } := by
  simp only [readContent, Result.bind_eq_ok_iff] at read ⊢
  obtain ⟨items, isItems, choices, isChoices, rules, isRules, others, isOthers, conditions,
    isConditions, position, isPosition, same⟩ := read
  cases same
  exact ⟨items, isItems, choices, isChoices, rules, isRules, others, isOthers, conditions,
    isConditions, position, isPosition, rfl⟩

/-- An id that can be written is claimed as it is given, and else drawn. -/
theorem claimId_eq_given {entries : Entries} (short : (entries.part "id").hasOverlong = false)
    (supply : Supply) :
    claimId entries supply =
      match givenId? (.map entries) with
      | some id => (.ok id, supply)
      | none => (.ok supply.nextId.1, supply.nextId.2) := by
  by_cases counts : (entries.part "id").truthy = true
  · simp [claimId, givenId?, counts, Value.spell, short]
  · simp [claimId, givenId?, counts]

/-- A field is read from an importable document under the id that is given or else drawn. -/
theorem readField_of_isImportable {document : Value} (importable : IsImportable document)
    (supply : Supply) :
    ∃ placed, placed.Passes ∧ readField supply document =
      (.ok placed, if (givenId? document).isSome then supply else supply.nextId.2) ∧
      placed.id = (givenId? document).getD supply.nextId.1 := by
  obtain ⟨earlier, placed, read, passes⟩ := importable
  unfold readField at read
  split at read
  · cases read
  next entries type opened =>
    obtain rfl := eq_map_of_openField opened
    have short : (entries.part "id").hasOverlong = false := by
      rcases claimId_eq entries earlier with ⟨_, _, short, -⟩ | ⟨-, failed⟩
      · exact short
      · rw [failed] at read
        cases read
    split at read
    · cases read
    next id rest claimed =>
      refine ⟨{ placed with id := (givenId? (.map entries)).getD supply.nextId.1 },
        ⟨passes.options, passes.patterns⟩, ?_, rfl⟩
      rw [readField, opened]
      simp only [claimId_eq_given short]
      cases givenId? (.map entries) <;> simp [readContent_withId read]

/-- Fields are read from importable documents under the ids that they claim, and have what they
must have for the checks. -/
theorem readFields_of_areImportable {documents : List Value}
    (importable : ∀ document ∈ documents, IsImportable document) (supply : Supply) (index : Nat) :
    ∃ fields rest, readFields supply index documents = (.ok fields, rest) ∧
      fields.map (·.id) = claimedIds supply.ids documents ∧ ∀ field ∈ fields, field.Passes := by
  induction documents generalizing supply index with
  | nil => exact ⟨[], supply, rfl, rfl, by simp⟩
  | cons document documents inductionHypothesis =>
    obtain ⟨here, later⟩ := List.forall_mem_cons.mp importable
    obtain ⟨placed, passes, read, isId⟩ := readField_of_isImportable here supply
    obtain ⟨fields, rest, othersRead, ids, othersPass⟩ := inductionHypothesis later
      (if (givenId? document).isSome then supply else supply.nextId.2) (index + 1)
    refine ⟨placed :: fields, rest, ?_, ?_, List.forall_mem_cons.mpr ⟨passes, othersPass⟩⟩
    · simp [readFields, read, othersRead, Except.map]
    · rw [List.map_cons, ids, isId]
      cases given : givenId? document <;> simp [claimedIds, given, Supply.nextId]

/-- Fields with what they must have fail the checks on nothing but an id that one of them shares
with another one, or with a field before them. -/
theorem failsOnly_checkFields {seen : List String} {fields : List PlacedField}
    (pass : ∀ field ∈ fields, field.Passes) :
    Result.FailsOnly (fun fault => ∃ id, fault = .importedDuplicateId id ∧
        (id ∈ seen ∧ id ∈ fields.map (·.id) ∨ List.Duplicate id (fields.map (·.id))))
      (checkFields seen fields).result := by
  induction fields generalizing seen with
  | nil => simp [checkFields]
  | cons field rest inductionHypothesis =>
    obtain ⟨passes, restPass⟩ := List.forall_mem_cons.mp pass
    rcases checkFields_cons seen field rest with ⟨isSeen, found⟩ | ⟨-, isChoice, bare, found⟩ |
      ⟨-, -, ⟨fault, refused⟩, found⟩ | ⟨-, -, found⟩
    · rw [found, Result.failsOnly_error_iff]
      exact ⟨field.id, rfl, .inl ⟨isSeen, .head _⟩⟩
    · exact absurd bare (passes.options isChoice)
    · rw [result_checkPatterns_eq_ok_iff.mpr passes.patterns] at refused
      cases refused
    · rw [found]
      refine (inductionHypothesis restPass).imp ?_
      rintro _ ⟨id, rfl, ⟨isSeen, member⟩ | repeated⟩
      · rcases List.mem_cons.mp isSeen with rfl | isSeen
        · exact ⟨_, rfl, .inr (List.Mem.duplicate_cons_self member)⟩
        · exact ⟨id, rfl, .inl ⟨isSeen, .tail _ member⟩⟩
      · exact ⟨id, rfl, .inr (repeated.duplicate_cons _)⟩

/-- Where neither given nor drawn ids repeat among themselves, the checks pass or an id is both. -/
theorem checkFields_of_claimed {fields : List PlacedField} {given drawn : List String}
    (pass : ∀ field ∈ fields, field.Passes) (claimed : (fields.map (·.id)).Perm (given ++ drawn))
    (givenDistinct : given.Nodup) (drawnDistinct : drawn.Nodup) :
    ((checkFields [] fields).result = .ok () ∧ ∀ id ∈ drawn, id ∉ given) ∨
      ∃ id, (checkFields [] fields).result = .error (.importedDuplicateId id) ∧
        id ∈ given ∧ id ∈ drawn := by
  cases checked : (checkFields [] fields).result with
  | ok =>
    obtain ⟨distinct, -⟩ := result_checkFields_eq_ok_iff.mp checked
    obtain ⟨-, -, apart⟩ := List.nodup_append.mp (claimed.nodup_iff.mp distinct)
    exact .inl ⟨rfl, fun id isDrawn isGiven => apart id isGiven id isDrawn rfl⟩
  | error fault =>
    obtain ⟨id, rfl, ⟨isSeen, -⟩ | repeated⟩ := failsOnly_checkFields pass fault checked
    · cases isSeen
    · have twice : 2 ≤ given.count id + drawn.count id := by
        rw [← List.count_append, ← claimed.count_eq]
        exact List.duplicate_iff_two_le_count.mp repeated
      have givenOnce := List.nodup_iff_count_le_one.mp givenDistinct id
      have drawnOnce := List.nodup_iff_count_le_one.mp drawnDistinct id
      exact .inr ⟨id, rfl, List.count_pos_iff.mp (by omega), List.count_pos_iff.mp (by omega)⟩

/-- The header of a form does not fail on an id that is there twice. -/
theorem failsOnly_readHeader (now : DateTime) (entries : Entries) (id : String) :
    Result.FailsOnly (· ≠ .importedDuplicateId id) (readHeader now entries) := by
  have time (value : Value) : Result.FailsOnly (· ≠ .importedDuplicateId id) (readTime? value) := by
    unfold readTime?
    split
    · simp
    · simp
    · simp
    · split
      · simp
      · unfold Fault.told
        split <;> simp
  have settings : Result.FailsOnly (· ≠ .importedDuplicateId id) (readSettings entries) := by
    unfold readSettings
    split <;> simp
  simp [readHeader, readTimes, Result.failsOnly_bind_iff, time, settings]

section

variable {supply : Supply} {document : Value} {entries : Entries} {documents : List Value}

/-- A form whose header or whose id can not be read is not read, for which no id is to blame that is
there twice. -/
theorem readForm_unheaded (strict : Bool)
    (opened : openForm strict document = .ok (entries, documents))
    (unheaded : ¬∃ header formId, readHeader supply.now.1 entries = .ok header ∧
      (claimId entries supply.now.2).1 = .ok formId) :
    ∃ fault, (readForm strict supply document).result = .error fault ∧
      ∀ id, fault ≠ .importedDuplicateId id := by
  cases headerRead : readHeader supply.now.1 entries with
  | error fault =>
    refine ⟨fault, by simp [readForm, opened, headerRead], fun id => ?_⟩
    exact failsOnly_readHeader supply.now.1 entries id fault headerRead
  | ok header =>
    rcases claimId_eq entries supply.now.2 with ⟨formId, _, -, claimed⟩ | ⟨-, failed⟩
    · exact absurd ⟨header, formId, headerRead, congrArg Prod.fst claimed⟩ unheaded
    · exact ⟨.integerUnwritten, by simp [readForm, opened, headerRead, failed], by simp⟩

/-- A form whose header and id can be read has fields with all ids that are given and drawn, unless
one id is both, and then it is not read because of such an id. -/
theorem readForm_headed (strict : Bool) (injective : Function.Injective supply.ids.stream)
    (opened : openForm strict document = .ok (entries, documents))
    (importable : ∀ field ∈ documents, IsImportable field)
    (distinct : (documents.filterMap givenId?).Nodup)
    {header : String → FormHeader} {formId : String}
    (headerRead : readHeader supply.now.1 entries = .ok header)
    (claimed : (claimId entries supply.now.2).1 = .ok formId) :
    let given := documents.filterMap givenId?
    let drawn := drawnIds (claimId entries supply.now.2).2.ids documents
    let result := (readForm strict supply document).result
    (∃ form, result = .ok form ∧ (form.fields.map (·.id)).Perm (given ++ drawn) ∧
        (form.fields.map (·.id)).Nodup ∧ ∀ id ∈ drawn, id ∉ given) ∨
      ∃ id, result = .error (.importedDuplicateId id) ∧ id ∈ given ∧ id ∈ drawn := by
  intro given drawn result
  have sameStream : (claimId entries supply.now.2).2.ids.stream = supply.ids.stream :=
    (sameSources_claimId entries supply.now.2).ids
  have drawnDistinct : drawn.Nodup := nodup_drawnIds (sameStream ▸ injective) documents
  rcases claim : claimId entries supply.now.2 with ⟨_, later⟩
  obtain rfl : _ = Except.ok formId := (congrArg Prod.fst claim).symm.trans claimed
  obtain ⟨fields, rest, fieldsRead, ids, pass⟩ := readFields_of_areImportable importable later 0
  have perm : (fields.map (·.id)).Perm (given ++ drawn) := by
    simpa only [ids, drawn, claim] using claimedIds_perm later.ids documents
  have isResult : result = (checkFields [] fields).result.map fun _ =>
      { header formId with fields := arrange fields } := by
    simp [result, readForm, opened, headerRead, claim, fieldsRead]
  rcases checkFields_of_claimed pass perm distinct drawnDistinct with
    ⟨passed, apart⟩ | ⟨id, fails, isBoth⟩
  · have distinctIds := (result_checkFields_eq_ok_iff.mp passed).1
    exact .inl ⟨{ header formId with fields := arrange fields }, by rw [isResult, passed]; rfl,
      (map_id_arrange fields).trans perm, (map_id_arrange fields).nodup_iff.mpr distinctIds, apart⟩
  · exact .inr ⟨id, by rw [isResult, fails]; rfl, isBoth⟩

end

/-- Where each field of a document can be read on its own and no two of them are given one id, the
fields of the form have the ids that are given and others that are drawn, one for each field that
is given none. If nothing else is wrong with the document, the form can be read exactly if none of
the drawn ids is given, and else it fails on one that is. -/
theorem readForm_drawnIds (strict : Bool) {supply : Supply}
    (injective : Function.Injective supply.ids.stream) {document : Value} {entries : Entries}
    {documents : List Value} (opened : openForm strict document = .ok (entries, documents))
    (importable : ∀ field ∈ documents, IsImportable field)
    (distinct : (documents.filterMap givenId?).Nodup) :
    let given := documents.filterMap givenId?
    let drawn := drawnIds (claimId entries supply.now.2).2.ids documents
    let result := (readForm strict supply document).result
    (∀ form, result = .ok form →
        (form.fields.map (·.id)).Perm (given ++ drawn) ∧ (form.fields.map (·.id)).Nodup) ∧
      (∀ id, result = .error (.importedDuplicateId id) → id ∈ given ∧ id ∈ drawn) ∧
      ∀ header formId, readHeader supply.now.1 entries = .ok header →
        (claimId entries supply.now.2).1 = .ok formId →
        ((∃ form, result = .ok form) ↔ ∀ id ∈ drawn, id ∉ given) ∧
          ((∃ id, result = .error (.importedDuplicateId id)) ↔ ∃ id ∈ drawn, id ∈ given) := by
  intro given drawn result
  -- The fields are read after header and id, so that these alone can keep an id that is there twice
  -- from being found.
  by_cases headed : ∃ header formId, readHeader supply.now.1 entries = .ok header ∧
      (claimId entries supply.now.2).1 = .ok formId
  · obtain ⟨header, formId, headerRead, claimed⟩ := headed
    rcases readForm_headed strict injective opened importable distinct headerRead claimed with
      ⟨form, succeeds, perm, distinctIds, apart⟩ | ⟨id, fails, isGiven, isDrawn⟩
    · have noFault : ¬∃ id, result = .error (.importedDuplicateId id) := fun ⟨_, fails⟩ =>
        nomatch succeeds.symm.trans fails
      refine ⟨fun read isRead => ?_, fun id fails => absurd ⟨id, fails⟩ noFault,
        fun _ _ _ _ => ⟨iff_of_true ⟨form, succeeds⟩ apart, iff_of_false noFault ?_⟩⟩
      · obtain rfl := Except.ok.inj (succeeds.symm.trans isRead)
        exact ⟨perm, distinctIds⟩
      · exact fun ⟨id, isDrawn, isGiven⟩ => apart id isDrawn isGiven
    · have noForm : ¬∃ form, result = .ok form := fun ⟨_, succeeds⟩ =>
        nomatch fails.symm.trans succeeds
      refine ⟨fun form isRead => absurd ⟨form, isRead⟩ noForm, fun other isFault => ?_,
        fun _ _ _ _ => ⟨iff_of_false noForm ?_, iff_of_true ⟨id, fails⟩ ⟨id, isDrawn, isGiven⟩⟩⟩
      · cases fails.symm.trans isFault
        exact ⟨isGiven, isDrawn⟩
      · exact fun apart => apart id isDrawn isGiven
  · obtain ⟨fault, fails, other⟩ := readForm_unheaded strict opened headed
    have isFault : result = .error fault := fails
    refine ⟨by simp [isFault], fun id duplicate => ?_, fun header formId headerRead claimed => ?_⟩
    · exact absurd (Except.error.inj (isFault.symm.trans duplicate)) (other id)
    · exact absurd ⟨header, formId, headerRead, claimed⟩ headed

/-- A source that counts never gives an id twice. -/
theorem IdSource.injective_counting (stem : String) :
    Function.Injective (IdSource.counting stem).stream := by
  intro left right same
  have sameDigits : (toString (left + 1)).toList = (toString (right + 1)).toList := by
    have lists := congrArg String.toList same
    simp only [IdSource.counting, String.toList_append] at lists
    exact List.append_cancel_left lists
  have sameNumber := congrArg (fun digits => Nat.ofDigitChars 10 digits 0) sameDigits
  simpa [Nat.toString_eq_ofList_toDigits] using sameNumber

/-- The documents of two texts, of which the second alone is given an id. -/
def secondNamed (id : String) : List Value :=
  [.map [(.str "type", .str "text")], .map [(.str "type", .str "text"), (.str "id", .str id)]]

/-- They can be read as the fields of a form if the second text is not given the id that is drawn
for the first one. -/
theorem readForm_drawnIds_secondNamed :
    let supply : Supply := ⟨.counting "id", .still .startOf2024⟩
    let document (id : String) : Value :=
      .map [(.str "id", .str "form"), (.str "fields", .list (secondNamed id))]
    (∃ form, (readForm true supply (document "id2")).result = .ok form ∧
        (form.fields.map (·.id)).Perm ["id2", "id1"]) ∧
      (readForm true supply (document "id1")).result = .error (.importedDuplicateId "id1") := by
  intro supply document
  have injective : Function.Injective supply.ids.stream := IdSource.injective_counting "id"
  have opened (id : String) : openForm true (document id) =
      .ok ([(.str "id", .str "form"), (.str "fields", .list (secondNamed id))], secondNamed id) :=
    rfl
  have unnamed : IsImportable (.map [(.str "type", .str "text")]) :=
    ⟨supply, _, rfl, by decide, nofun⟩
  have importable (id : String)
      (named : IsImportable (.map [(.str "type", .str "text"), (.str "id", .str id)])) :
      ∀ field ∈ secondNamed id, IsImportable field :=
    List.forall_mem_cons.mpr ⟨unnamed, List.forall_mem_singleton.mpr named⟩
  have free := importable "id2" ⟨supply, _, rfl, by decide, nofun⟩
  have taken := importable "id1" ⟨supply, _, rfl, by decide, nofun⟩
  constructor
  · obtain ⟨claimed, -, sound⟩ := readForm_drawnIds true injective (opened "id2") free (by decide)
    obtain ⟨form, read⟩ := (sound _ _ rfl rfl).1.mpr (by decide +kernel)
    exact ⟨form, read, (claimed form read).1.trans (.of_eq (by decide +kernel))⟩
  · obtain ⟨-, shared, sound⟩ := readForm_drawnIds true injective (opened "id1") taken (by decide)
    obtain ⟨id, fails⟩ := (sound _ _ rfl rfl).2.mpr (by decide +kernel)
    obtain rfl := List.mem_singleton.mp (shared id fails).1
    exact fails

end FormEngine
