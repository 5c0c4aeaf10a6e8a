import FormEngine.Proofs.Validation.Address
import Mathlib.Logic.Relation

/-!
# What passes for a phone number

A phone number is judged without its separators. What is left is held against a pattern whose
language is an optional plus, a digit from 1 to 9 and at most fifteen further digits. Two texts that
differ in separators alone are therefore judged alike.
-/

namespace FormEngine

open FormEngine.Pattern

/-- A text without the characters that phone numbers may hold anywhere. -/
def unseparated (text : List Char) : List Char :=
  text.filter (!isPhoneSeparator ·)

/-- The second text is the first with one separator more, anywhere in it. -/
inductive InsertsSeparator : List Char → List Char → Prop where
  | intro (before after : List Char) {c : Char} (separator : isPhoneSeparator c = true) :
      InsertsSeparator (before ++ after) (before ++ c :: after)

theorem InsertsSeparator.unseparated_eq {text other : List Char}
    (inserts : InsertsSeparator text other) : unseparated text = unseparated other := by
  obtain ⟨before, after, separator⟩ := inserts
  simp [unseparated, separator]

/-- A character in front of both texts keeps them one separator apart. -/
theorem InsertsSeparator.cons {text other : List Char} (c : Char)
    (inserts : InsertsSeparator text other) : InsertsSeparator (c :: text) (c :: other) := by
  obtain ⟨before, after, separator⟩ := inserts
  exact .intro (c :: before) after separator

/-- A text can be made from what is left of it by inserting separators one by one. -/
theorem inserts_unseparated (text : List Char) :
    Relation.ReflTransGen InsertsSeparator (unseparated text) text := by
  induction text with
  | nil => exact .refl
  | cons c rest inductionHypothesis =>
    have behind : Relation.ReflTransGen InsertsSeparator (c :: unseparated rest) (c :: rest) :=
      inductionHypothesis.lift (c :: ·) fun _ _ inserts => inserts.cons c
    by_cases separator : isPhoneSeparator c = true
    · have left : unseparated (c :: rest) = unseparated rest := by simp [unseparated, separator]
      rw [left]
      exact .head (.intro [] (unseparated rest) separator) behind
    · have kept : unseparated (c :: rest) = c :: unseparated rest := by
        simp [unseparated, separator]
      rw [kept]
      exact behind

/-- Two texts can be made from each other by inserting and deleting separators exactly if they are
the same without any. -/
theorem eqvGen_insertsSeparator_iff {text other : List Char} :
    Relation.EqvGen InsertsSeparator text other ↔ unseparated text = unseparated other := by
  constructor
  · intro edited
    induction edited with
    | rel text other inserts => exact inserts.unseparated_eq
    | refl text => rfl
    | symm text other _ same => exact same.symm
    | trans text middle other _ _ first second => exact first.trans second
  · intro same
    have first := Relation.EqvGen.reflTransGen_le_eqvGen _ _ _ (inserts_unseparated text)
    have second := Relation.EqvGen.reflTransGen_le_eqvGen _ _ _ (inserts_unseparated other)
    rw [← same] at second
    exact .trans _ _ _ (.symm _ _ first) second

theorem holds_leadingDigit {c : Char} : leadingDigit.holds c = true ↔ '1' ≤ c ∧ c ≤ '9' := by
  simp [leadingDigit, CharSet.holds, SetItem.holds, Folding.variants, Char.le_def,
    UInt32.le_iff_toNat_le]

theorem holds_anyDigit {c : Char} : anyDigit.holds c = true ↔ Text.isDecimalDigit c = true := by
  simp [anyDigit, CharSet.holds, SetItem.holds, ClassName.holds]

/-- An optional plus, an ASCII digit from 1 to 9, and then at most fifteen decimal digits of any
script. -/
def IsPhoneShape (text : List Char) : Prop :=
  ∃ sign lead digits, text = sign ++ lead :: digits ∧ (sign = [] ∨ sign = ['+']) ∧
    ('1' ≤ lead ∧ lead ≤ '9') ∧ digits.length ≤ 15 ∧ ∀ c ∈ digits, Text.isDecimalDigit c = true

/-- The texts of the optional plus. -/
theorem mem_optionalPlus {text : List Char} :
    text ∈ repetitions 0 (some 1) (CharSet.only '+').letters ↔ text = [] ∨ text = ['+'] := by
  simp only [mem_repetitions_letters, Nat.zero_le, true_and, Option.mem_some, forall_eq',
    CharSet.holds_only]
  match text with
  | [] => simp
  | [c] => simp
  | _ :: _ :: rest => simp

/-- The texts of the digits behind the first. -/
theorem mem_furtherDigits {text : List Char} :
    text ∈ repetitions 0 (some 15) anyDigit.letters ↔
      text.length ≤ 15 ∧ ∀ c ∈ text, Text.isDecimalDigit c = true := by
  simp [mem_repetitions_letters, holds_anyDigit]

/-- The language of phone numbers without separators. -/
def phoneLanguage : Language Char :=
  {text | IsPhoneShape text}

theorem hasLanguage_phoneParts :
    (Node.row [.repeated .greedy 0 (some 1) (.just '+'), .char leadingDigit,
      .repeated .greedy 0 (some 15) (.char anyDigit)]).HasLanguage phoneLanguage := by
  have sign : (Node.repeated .greedy 0 (some 1) (.just '+')).HasLanguage
      (repetitions 0 (some 1) (CharSet.only '+').letters) :=
    (Node.HasLanguage.char _).greedy (by simp)
  have further : (Node.repeated .greedy 0 (some 15) (.char anyDigit)).HasLanguage
      (repetitions 0 (some 15) anyDigit.letters) :=
    (Node.HasLanguage.char _).greedy (by simp)
  have row := Node.HasLanguage.row (.cons sign (.cons (.char leadingDigit) (.cons further .nil)))
  convert row using 1
  ext text
  simp only [List.prod_cons, List.prod_nil, mul_one, Language.mem_mul, mem_optionalPlus,
    mem_furtherDigits, CharSet.mem_letters, holds_leadingDigit]
  constructor
  · rintro ⟨sign, lead, digits, rfl, isSign, isLead, few, areDigits⟩
    exact ⟨sign, isSign, _, ⟨_, ⟨lead, isLead, rfl⟩, digits, ⟨few, areDigits⟩, rfl⟩, rfl⟩
  · rintro ⟨sign, isSign, _, ⟨_, ⟨lead, isLead, rfl⟩, digits, ⟨few, areDigits⟩, rfl⟩, rfl⟩
    exact ⟨sign, lead, digits, rfl, isSign, isLead, few, areDigits⟩

/-- The check of phone numbers accepts the texts that have the shape without their separators. -/
theorem isPhoneNumber_iff (text : String) :
    isPhoneNumber text = true ↔ IsPhoneShape (unseparated text.toList) := by
  have bare : (String.ofList (unseparated text.toList)).toList = unseparated text.toList :=
    String.toList_ofList
  refine (matchesStart_row_iff hasLanguage_phoneParts _).trans ?_
  rw [show text.toList.filter (!isPhoneSeparator ·) = unseparated text.toList from rfl, bare]
  refine or_iff_left ?_
  -- A line feed is a separator, so none is left for the end of the last line to stand before.
  rintro ⟨line, -, ends⟩
  have left : '\n' ∈ unseparated text.toList := by
    rw [ends]
    simp
  have separator : isPhoneSeparator '\n' = true := by decide
  simp [unseparated, separator] at left

/-- The check of phone numbers accepts its grammar and ignores separators. A phone field without
rules accepts a text that is there exactly if, without its separators, it is an optional plus, a
digit from 1 to 9 and at most fifteen decimal digits, and gives every such text a verdict, as long
as the label has a text for the message to name. Any text that is there and can be made from it by
inserting and deleting separators is given the same verdict. -/
theorem Field.phone_accepted_iff (field : Field) (text : String)
    (present : Text.isBlankText text = false) :
    ((field.retyped .phone []).validate (.str text) = .ok none ↔
      IsPhoneShape (unseparated text.toList)) ∧
    (field.label.hasOverlong = false →
      ∃ verdict, (field.retyped .phone []).validate (.str text) = .ok verdict) ∧
    ∀ other, Text.isBlankText other = false →
      Relation.EqvGen InsertsSeparator text.toList other.toList →
      (field.retyped .phone []).validate (.str other) =
        (field.retyped .phone []).validate (.str text) := by
  have validated {text : String} (present : Text.isBlankText text = false) :
      (field.retyped .phone []).validate (.str text) =
        testVerdict field.label "must be a valid phone number" (isPhoneNumber text) :=
    field.validate_present .phone present
  refine ⟨?_, fun legible => ?_, fun other otherPresent edited => ?_⟩
  · rw [validated present, ← isPhoneNumber_iff]
    exact testVerdict_eq_ok_none_iff
  · rw [validated present]
    exact exists_testVerdict legible _ _
  · have alike : isPhoneNumber other = isPhoneNumber text := by
      rw [Bool.eq_iff_iff, isPhoneNumber_iff, isPhoneNumber_iff,
        eqvGen_insertsSeparator_iff.mp edited]
    rw [validated otherPresent, validated present, alike]

/-- A number is accepted as it is usually written and with the separators left out. One that begins
with a zero is answered with the message of the type, so it does not have the shape. -/
theorem Field.phone_accepted_iff_office :
    Text.isBlankText "+1 (555) 010-9999" = false ∧ Text.isBlankText "+15550109999" = false ∧
      Relation.EqvGen InsertsSeparator "+1 (555) 010-9999".toList "+15550109999".toList ∧
      (ageField.retyped .phone []).validate (.str "+1 (555) 010-9999") = .ok none ∧
      (ageField.retyped .phone []).validate (.str "+15550109999") = .ok none ∧
      (ageField.retyped .phone []).validate (.str "(0) 555") =
        .ok (some (.str "Age must be a valid phone number")) ∧
      ¬IsPhoneShape (unseparated "(0) 555".toList) := by
  have present : Text.isBlankText "+1 (555) 010-9999" = false := by decide +kernel
  have barePresent : Text.isBlankText "+15550109999" = false := by decide +kernel
  have zeroPresent : Text.isBlankText "(0) 555" = false := by decide +kernel
  have edited :
      Relation.EqvGen InsertsSeparator "+1 (555) 010-9999".toList "+15550109999".toList :=
    eqvGen_insertsSeparator_iff.mpr (by decide +kernel)
  have areDigits : "5550109999".toList.all Text.isDecimalDigit = true := by decide +kernel
  have shape : IsPhoneShape (unseparated "+1 (555) 010-9999".toList) :=
    ⟨['+'], '1', "5550109999".toList, by decide +kernel, .inr rfl, by decide, by decide +kernel,
      List.all_eq_true.mp areDigits⟩
  have rejected : (ageField.retyped .phone []).validate (.str "(0) 555") =
      .ok (some (.str "Age must be a valid phone number")) :=
    Result.toOption_eq_some_iff.mp (by decide +kernel)
  obtain ⟨accepts, -, alike⟩ := ageField.phone_accepted_iff "+1 (555) 010-9999" present
  obtain ⟨zeroAccepts, -⟩ := ageField.phone_accepted_iff "(0) 555" zeroPresent
  have accepted := accepts.mpr shape
  rw [rejected] at zeroAccepts
  refine ⟨present, barePresent, edited, accepted, ?_, rejected,
    fun zeroShape => nomatch zeroAccepts.mpr zeroShape⟩
  rw [alike _ barePresent edited, accepted]

end FormEngine
