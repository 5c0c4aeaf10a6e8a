import FormEngine.Proofs.Document.Dialect.Spelling
import FormEngine.Proofs.Document.Rereading
import FormEngine.Proofs.Field.Content

/-!
# Options of editors and of documents

Editors give options in the shapes in which documents hold them, and each side has a reader of its
own. What an item says about an option is stated here once, and both readers are compared with it:
they take the same texts from it. They differ only where a map has nothing but null for the value,
or nothing at all: such a map is refused in a document, while an editor gets an option of what there
is.
-/

namespace FormEngine

/-- What an item says about an option. In a map the label and the value stand in for each other
where one of them is missing; any other item is both. -/
inductive ChoiceDocument.IsSaidBy : ChoiceDocument → Value → Prop
  | both {document : ChoiceDocument} {entries : Entries}
      (label : lookup "label" entries = some document.label)
      (value : lookup "value" entries = some document.value) :
      IsSaidBy document (.map entries)
  | labelOnly {given : Value} {entries : Entries} (label : lookup "label" entries = some given)
      (noValue : lookup "value" entries = none) : IsSaidBy ⟨given, given⟩ (.map entries)
  | valueOnly {given : Value} {entries : Entries} (noLabel : lookup "label" entries = none)
      (value : lookup "value" entries = some given) : IsSaidBy ⟨given, given⟩ (.map entries)
  | plain {item : Value} (noMap : ∀ entries, item ≠ .map entries) : IsSaidBy ⟨item, item⟩ item

/-- The option that is said: the texts of its label and of its value. -/
def ChoiceDocument.choice (document : ChoiceDocument) : Except Fault Choice := do
  return ⟨← document.label.spell, ← document.value.spell⟩

/-- The label and the value of an option are the texts of what an item says about it. -/
def Choice.IsToldBy (choice : Choice) (item : Value) : Prop :=
  ∃ document : ChoiceDocument, document.IsSaidBy item ∧ document.choice = .ok choice

/-- A map that has neither a label nor a value. -/
def Value.IsSilent (item : Value) : Prop :=
  ∃ entries, item = .map entries ∧ lookup "label" entries = none ∧ lookup "value" entries = none

/-- An item that a document may hold for an option: a map gives something for the value that is not
null. -/
def Value.HoldsChoice (item : Value) : Prop :=
  ∀ entries, item = .map entries → Entries.partOrLegacy entries "value" "label" ≠ .null

/-- Whatever is no silent map says something about an option. -/
theorem ChoiceDocument.exists_isSaidBy {item : Value} (speaks : ¬item.IsSilent) :
    ∃ document : ChoiceDocument, document.IsSaidBy item := by
  cases item with
  | map entries =>
    cases label : lookup "label" entries with
    | some givenLabel =>
      cases value : lookup "value" entries with
      | some givenValue => exact ⟨⟨givenLabel, givenValue⟩, .both label value⟩
      | none => exact ⟨_, .labelOnly label value⟩
    | none =>
      cases value : lookup "value" entries with
      | some givenValue => exact ⟨_, .valueOnly label value⟩
      | none => exact absurd ⟨entries, rfl, label, value⟩ speaks
  | _ => exact ⟨_, .plain fun _ impossible => by cases impossible⟩

/-- What a document may hold is not silent. -/
theorem Value.HoldsChoice.not_isSilent {item : Value} (holds : item.HoldsChoice) :
    ¬item.IsSilent := by
  rintro ⟨entries, rfl, noLabel, noValue⟩
  exact holds entries rfl (by simp [Entries.partOrLegacy, noLabel, noValue])

/-- It does not matter which of the two texts is made first, as they fail alike. -/
theorem ChoiceDocument.choice_eq_value_first (document : ChoiceDocument) :
    document.choice = (do
      let value ← document.value.spell
      let label ← document.label.spell
      return ⟨label, value⟩) := by
  simp only [choice, Value.spell]
  split <;> split <;> rfl

/-- A value that is both is spelled once. -/
theorem ChoiceDocument.choice_same (given : Value) :
    ChoiceDocument.choice ⟨given, given⟩ = (do
      let text ← given.spell
      return ⟨text, text⟩) := by
  cases spelled : given.spell <;> simp [choice, spelled]

namespace Choice

/-- What an item says is the option that it stands for. -/
theorem ofValue_of_isSaidBy {document : ChoiceDocument} {item : Value}
    (said : document.IsSaidBy item) : ofValue item = document.choice := by
  cases said with
  | both label value => simp [ofValue, label, value, document.choice_eq_value_first]
  | labelOnly label noValue =>
    simp [ofValue, label, noValue, ChoiceDocument.choice_eq_value_first]
  | valueOnly noLabel value =>
    -- The label is made of the text of the value, which is spelled as it is.
    simp [ofValue, noLabel, value, ChoiceDocument.choice_same]
  | plain noMap =>
    rw [ChoiceDocument.choice_same]
    cases item with
    | map entries => exact absurd rfl (noMap entries)
    | _ => rfl

/-- A silent map stands for an option of empty texts. -/
theorem ofValue_of_isSilent {item : Value} (silent : item.IsSilent) :
    ofValue item = .ok ⟨"", ""⟩ := by
  obtain ⟨entries, rfl, noLabel, noValue⟩ := silent
  simp [ofValue, noLabel, noValue]

/-- An item stands for an option exactly if it tells the option, or if it is silent and the texts of
the option are empty. -/
theorem ofValue_eq_ok_iff {item : Value} {choice : Choice} :
    ofValue item = .ok choice ↔ choice.IsToldBy item ∨ item.IsSilent ∧ choice = ⟨"", ""⟩ := by
  constructor
  · intro stands
    by_cases silent : item.IsSilent
    · rw [ofValue_of_isSilent silent] at stands
      exact .inr ⟨silent, (Except.ok.inj stands).symm⟩
    · obtain ⟨document, said⟩ := ChoiceDocument.exists_isSaidBy silent
      exact .inl ⟨document, said, ofValue_of_isSaidBy said ▸ stands⟩
  · rintro (⟨document, said, told⟩ | ⟨silent, rfl⟩)
    · rw [ofValue_of_isSaidBy said, told]
    · exact ofValue_of_isSilent silent

/-- The document of an option stands for the option. -/
theorem ofValue_toDocument (choice : Choice) : ofValue choice.toDocument = .ok choice := by
  simp [ofValue, toDocument, Value.record, lookup]

end Choice

/-- What is given for a list lists the items that a document has in such a part. -/
theorem Listing.lists_of_partItems {α : Type} {part : Value} {items : List Value}
    (held : partItems part = .ok items) :
    (Listing.value part : Listing α).Lists (items.map .stray) := by
  unfold partItems at held
  split at held
  · next nothing =>
    obtain rfl := Except.ok.inj held
    exact .nothing (by simpa using nothing)
  · next something =>
    split at held
    · next others isItems =>
      obtain rfl := Except.ok.inj held
      exact .items (by simpa using something) isItems
    · cases held

/-- The options that are given by such a part are those that its items stand for. -/
theorem Listing.toChoices_of_partItems {part : Value} {items : List Value}
    (held : partItems part = .ok items) :
    (Listing.value part).toChoices = items.mapM Choice.ofValue := by
  rw [toChoices, toEntries_eq_ok_iff.mpr (lists_of_partItems held), Result.ok_bind, List.mapM_map]
  rfl

/-- What an item says is the option that is read of it, if a document may hold it. -/
theorem readChoice_of_isSaidBy {document : ChoiceDocument} {item : Value}
    (holds : item.HoldsChoice) (said : document.IsSaidBy item) :
    readChoice item = document.choice := by
  cases said with
  | both label value =>
    have notNull : document.value ≠ .null := by
      simpa [Entries.partOrLegacy, value] using holds _ rfl
    simp [readChoice, Entries.partOrLegacy, label, value, notNull, ChoiceDocument.choice]
  | @labelOnly given _ label noValue =>
    have notNull : given ≠ .null := by
      simpa [Entries.partOrLegacy, label, noValue] using holds _ rfl
    simp [readChoice, Entries.partOrLegacy, label, noValue, notNull, ChoiceDocument.choice]
  | @valueOnly given _ noLabel value =>
    have notNull : given ≠ .null := by
      simpa [Entries.partOrLegacy, value] using holds _ rfl
    simp [readChoice, Entries.partOrLegacy, noLabel, value, notNull, ChoiceDocument.choice]
  | plain noMap =>
    rw [ChoiceDocument.choice_same]
    cases item with
    | map entries => exact absurd rfl (noMap entries)
    | _ => rfl

/-- An item that an option is read of is one that a document may hold. -/
theorem holdsChoice_of_readChoice {item : Value} {choice : Choice}
    (read : readChoice item = .ok choice) : item.HoldsChoice := by
  rintro entries rfl missing
  simp [readChoice, missing] at read

/-- Of an item that a document may hold, the option is read that it stands for, or reading fails as
it does for an editor. -/
theorem readChoice_eq_ofValue {item : Value} (holds : item.HoldsChoice) :
    readChoice item = Choice.ofValue item := by
  obtain ⟨document, said⟩ := ChoiceDocument.exists_isSaidBy holds.not_isSilent
  rw [readChoice_of_isSaidBy holds said, Choice.ofValue_of_isSaidBy said]

/-- An option is read of an item exactly if a document may hold the item and it stands for the
option. -/
theorem readChoice_eq_ok_iff {item : Value} {choice : Choice} :
    readChoice item = .ok choice ↔ item.HoldsChoice ∧ Choice.ofValue item = .ok choice := by
  constructor
  · intro read
    have holds : item.HoldsChoice := holdsChoice_of_readChoice read
    exact ⟨holds, readChoice_eq_ofValue holds ▸ read⟩
  · rintro ⟨holds, stands⟩
    rw [readChoice_eq_ofValue holds, stands]

/-- An item tells the option that is read of it. -/
theorem isToldBy_of_readChoice {item : Value} {choice : Choice}
    (read : readChoice item = .ok choice) : choice.IsToldBy item := by
  obtain ⟨holds, stands⟩ := readChoice_eq_ok_iff.mp read
  exact (Choice.ofValue_eq_ok_iff.mp stands).resolve_right fun empty =>
    holds.not_isSilent empty.1

/-- Options are read of items exactly if a document may hold each of them and they stand for the
options. -/
theorem mapM_readChoice_eq_ok_iff {items : List Value} {options : List Choice} :
    items.mapM readChoice = .ok options ↔
      (∀ item ∈ items, item.HoldsChoice) ∧ items.mapM Choice.ofValue = .ok options := by
  simp only [Result.mapM_eq_ok_iff, readChoice_eq_ok_iff, List.forall₂_and_left]

/-- A map that gives nothing is an empty option to an editor, and is refused in a document. -/
example : Choice.ofValue (.record []) = .ok ⟨"", ""⟩ ∧
    (readChoice (.record [])).isOk = false :=
  ⟨rfl, by decide +kernel⟩

/-- The options of a field that is read of a document are those that an editor gets who gives the
same part for them. -/
theorem offers_of_readContent {entries : Entries} {type : FieldType} {id : String}
    {placed : PlacedField} (read : readContent entries type id = .ok placed) :
    (Listing.value (entries.part "options")).Offers placed.options := by
  simp only [readContent, Result.bind_eq_ok_iff] at read
  obtain ⟨items, held, options, accepted, _, _, _, _, _, _, _, _, same⟩ := read
  obtain rfl := Except.ok.inj same
  rw [← Listing.toChoices_eq_ok_iff, Listing.toChoices_of_partItems held]
  exact (mapM_readChoice_eq_ok_iff.mp accepted).2

/-- An editor who gives a list of items that a document may hold for options gets the options that
are read of the document: in the order of the items, each with the texts of what its item says. To
give the options back, as they are or as documents of their own, changes nothing. -/
theorem Listing.toChoices_of_accepted {items : List Value} {options : List Choice}
    (accepted : items.mapM readChoice = .ok options) :
    (Listing.value (.list items)).toChoices = .ok options ∧
      List.Forall₂ (fun item option => option.IsToldBy item) items options ∧
      (Listing.entries (options.map .proper)).toChoices = .ok options ∧
      (Listing.value (.list (options.map Choice.toDocument))).toChoices = .ok options := by
  refine ⟨?editor, ?texts, toChoices_eq_ok_iff.mpr (offers_proper options), ?documents⟩
  case editor =>
    rw [toChoices_of_partItems (partItems_list items)]
    exact (mapM_readChoice_eq_ok_iff.mp accepted).2
  case texts =>
    rw [Result.mapM_eq_ok_iff] at accepted
    exact accepted.imp fun item option read => isToldBy_of_readChoice read
  case documents =>
    have each : (options.map Choice.toDocument).mapM Choice.ofValue = .ok (options.map id) :=
      Result.mapM_map_eq_ok fun option _ => option.ofValue_toDocument
    rw [toChoices_of_partItems (partItems_list _), each, List.map_id]

/-- Items of every shape: a text, a number, null, maps that lack a part, hold null for the label or
hold more than is asked for, and lists within a list. -/
theorem Listing.toChoices_of_accepted_mixedItems :
    let items : List Value := [.str "Red", .int 3, .null,
      .record [("value", .int 1)], .record [("extra", .bool true), ("label", .str "Two")],
      .record [("label", .null), ("value", .bool false)],
      .list [.str "a", .list [.null]], .list []]
    let options : List Choice := [⟨"Red", "Red"⟩, ⟨"3", "3"⟩, ⟨"None", "None"⟩, ⟨"1", "1"⟩,
      ⟨"Two", "Two"⟩, ⟨"None", "False"⟩, ⟨"['a', [None]]", "['a', [None]]"⟩, ⟨"[]", "[]"⟩]
    items.mapM readChoice = .ok options ∧
      (Listing.value (.list items)).toChoices = .ok options ∧
      (Listing.value (.list (options.map Choice.toDocument))).toChoices = .ok options := by
  intro items options
  have accepted : items.mapM readChoice = .ok options :=
    Result.toOption_eq_some_iff.mp (by decide +kernel)
  obtain ⟨editor, -, -, documents⟩ := Listing.toChoices_of_accepted accepted
  exact ⟨accepted, editor, documents⟩

end FormEngine
