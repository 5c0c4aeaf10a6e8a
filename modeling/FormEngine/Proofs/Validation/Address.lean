import FormEngine.Proofs.Pattern.Language
import FormEngine.Proofs.Validation.Composition

/-!
# What passes for an address

The patterns of addresses stand for languages, so what they accept can be said without the search:
an email address is a name, an at sign and a host with a point inside.
-/

namespace FormEngine

open FormEngine.Pattern

namespace Pattern

/-- Rows are searched one after the other. -/
theorem run_row_append (nodes others : List Node) (next : Next) :
    (Node.row (nodes ++ others)).run next = (Node.row nodes).run ((Node.row others).run next) := by
  induction nodes with
  | nil =>
    funext place
    rfl
  | cons node rest inductionHypothesis =>
    funext place
    rw [List.cons_append, Node.row, Node.row, Node.run, Node.run, inductionHypothesis]

/-- A row of patterns leads past a text of each of their languages, in order. -/
theorem Node.HasLanguage.row {nodes : List Node} {languages : List (Language Char)}
    (each : List.Forall₂ Node.HasLanguage nodes languages) :
    (Node.row nodes).HasLanguage languages.prod := by
  induction each with
  | nil => exact .empty
  | cons has _ inductionHypothesis =>
    rw [List.prod_cons]
    exact has.seq inductionHypothesis

/-- A row between the start of the text and the end of its last line matches the texts of its
language, and these with a line feed behind them. -/
theorem matchesStart_row_iff {nodes : List Node} {language : Language Char}
    (has : (Node.row nodes).HasLanguage language) (text : String) :
    (Node.row (.anchor .textStart :: nodes ++ [.anchor .lastLineEnd])).matchesStart text = true ↔
      text.toList ∈ language ∨ ∃ line ∈ language, text.toList = line ++ ['\n'] := by
  have parts : (Node.row (.anchor .textStart :: nodes ++ [.anchor .lastLineEnd])).run some
        (.start text.toList) =
      (Node.row nodes).run ((Node.row [.anchor .lastLineEnd]).run some) (.start text.toList) := by
    rw [List.cons_append, Node.row, Node.run, run_row_append]
    rfl
  have atEnd (place : Place) :
      ((Node.row [.anchor .lastLineEnd]).run some place).isSome = true ↔
        place.after = [] ∨ place.after = ['\n'] := by
    simp [Node.row, Node.run, Place.meets]
  rw [Node.matchesStart, Node.matchesAt, parts, has]
  simp only [atEnd, Place.after_past, Place.start]
  constructor
  · rintro ⟨line, inLanguage, rest, whole, rfl | rfl⟩
    · exact .inl (by rwa [whole, List.append_nil])
    · exact .inr ⟨line, inLanguage, whole⟩
  · rintro (inLanguage | ⟨line, inLanguage, whole⟩)
    · exact ⟨_, inLanguage, [], (List.append_nil _).symm, .inl rfl⟩
    · exact ⟨line, inLanguage, _, whole, .inr rfl⟩

/-- The range of one character. -/
theorem holds_range_self {c other : Char} :
    (SetItem.range c.toNat c.toNat).holds .exact other = true ↔ other = c := by
  rw [← Char.toNat_inj]
  simp only [SetItem.holds, Folding.variants, List.any_cons, List.any_nil, Bool.or_false,
    Bool.and_eq_true, decide_eq_true_eq]
  omega

/-- One given character. -/
theorem CharSet.holds_only {c other : Char} : (CharSet.only c).holds other = true ↔ other = c := by
  rw [← holds_range_self]
  simp [only, holds]

end Pattern

/-- The characters of an email address are neither blank nor an at sign. -/
theorem holds_emailChar {c : Char} :
    emailChar.holds c = true ↔ Text.isBlank c = false ∧ c ≠ '@' := by
  rw [ne_eq, ← holds_range_self, emailChar, CharSet.holds]
  simp [SetItem.holds, ClassName.holds]

/-- A part of an email address: characters that are neither blank nor at signs. -/
structure IsEmailPart (part : List Char) : Prop where
  nonempty : part ≠ []
  noBlank : ∀ c ∈ part, Text.isBlank c = false
  noAt : '@' ∉ part

/-- The texts of a part of the pattern for email addresses. -/
theorem mem_emailPart {text : List Char} :
    text ∈ repetitions 1 none emailChar.letters ↔ IsEmailPart text := by
  rw [mem_repetitions_letters, Nat.one_le_iff_ne_zero, ne_eq, List.length_eq_zero_iff]
  constructor
  · rintro ⟨nonempty, -, all⟩
    refine ⟨nonempty, fun c member => (holds_emailChar.mp (all c member)).1, fun member => ?_⟩
    exact (holds_emailChar.mp (all _ member)).2 rfl
  · rintro ⟨nonempty, noBlank, noAt⟩
    refine ⟨nonempty, by simp, fun c member => holds_emailChar.mpr ⟨noBlank c member, ?_⟩⟩
    rintro rfl
    exact noAt member

/-- The language of email addresses: three parts with an at sign and a point between them. -/
def emailLanguage : Language Char :=
  {text | ∃ name first last, IsEmailPart name ∧ IsEmailPart first ∧ IsEmailPart last ∧
    text = name ++ '@' :: (first ++ '.' :: last)}

theorem hasLanguage_emailParts :
    (Node.row [emailPart, .just '@', emailPart, .just '.', emailPart]).HasLanguage
      emailLanguage := by
  have part : emailPart.HasLanguage (repetitions 1 none emailChar.letters) :=
    (Node.HasLanguage.char emailChar).greedy (by simp)
  have sign (c : Char) : (Node.just c).HasLanguage (CharSet.only c).letters := .char _
  have row := Node.HasLanguage.row
    (.cons part (.cons (sign '@') (.cons part (.cons (sign '.') (.cons part .nil)))))
  convert row using 1
  ext text
  simp only [List.prod_cons, List.prod_nil, mul_one, Language.mem_mul, mem_emailPart,
    CharSet.mem_letters, CharSet.holds_only]
  constructor
  · rintro ⟨name, first, last, isName, isFirst, isLast, rfl⟩
    exact ⟨name, isName, _, ⟨_, ⟨_, rfl, rfl⟩, _, ⟨first, isFirst, _,
      ⟨_, ⟨_, rfl, rfl⟩, last, isLast, rfl⟩, rfl⟩, rfl⟩, rfl⟩
  · rintro ⟨name, isName, _, ⟨_, ⟨_, rfl, rfl⟩, _, ⟨first, isFirst, _,
      ⟨_, ⟨_, rfl, rfl⟩, last, isLast, rfl⟩, rfl⟩, rfl⟩, rfl⟩
    exact ⟨name, first, last, isName, isFirst, isLast, rfl⟩

/-- A text with exactly one at sign and no blank, that has a name before the at sign and behind it a
host in which a point stands neither first nor last. -/
structure IsEmailShape (text : List Char) : Prop where
  oneAt : text.count '@' = 1
  noBlank : ∀ c ∈ text, Text.isBlank c = false
  parts : ∃ name host, text = name ++ '@' :: host ∧ name ≠ [] ∧
    ∃ place, 0 < place ∧ place + 1 < host.length ∧ host[place]? = some '.'

/-- Texts of this shape are the language of email addresses. -/
theorem mem_emailLanguage_iff {text : List Char} : text ∈ emailLanguage ↔ IsEmailShape text := by
  constructor
  · rintro ⟨name, first, last, isName, isFirst, isLast, rfl⟩
    refine ⟨?_, ?_, name, _, rfl, isName.nonempty, first.length, ?_, ?_, by simp⟩
    · simp [List.count_append, List.count_eq_zero_of_not_mem isName.noAt,
        List.count_eq_zero_of_not_mem isFirst.noAt, List.count_eq_zero_of_not_mem isLast.noAt]
    · have signs : Text.isBlank '@' = false ∧ Text.isBlank '.' = false := by decide
      simp only [List.mem_append, List.mem_cons]
      rintro c (inName | rfl | inFirst | rfl | inLast)
      · exact isName.noBlank c inName
      · exact signs.1
      · exact isFirst.noBlank c inFirst
      · exact signs.2
      · exact isLast.noBlank c inLast
    · exact List.length_pos_of_ne_nil isFirst.nonempty
    · have longer := List.length_pos_of_ne_nil isLast.nonempty
      simp only [List.length_append, List.length_cons]
      omega
  · rintro ⟨oneAt, noBlank, name, host, rfl, named, place, notFirst, notLast, isPoint⟩
    obtain ⟨inside, isPoint⟩ := List.getElem?_eq_some_iff.mp isPoint
    have split : host = host.take place ++ '.' :: host.drop (place + 1) := by
      rw [← isPoint, ← List.drop_eq_getElem_cons inside, List.take_append_drop]
    rw [List.count_append, List.count_cons_self] at oneAt
    have noAtInName : '@' ∉ name := List.count_eq_zero.mp (by omega)
    have noAtInHost : '@' ∉ host := List.count_eq_zero.mp (by omega)
    have isPart {part : List Char} (nonempty : part ≠ []) (inHost : part ⊆ host) :
        IsEmailPart part :=
      ⟨nonempty, fun c member => noBlank c (by simp [inHost member]),
        fun member => noAtInHost (inHost member)⟩
    refine ⟨name, host.take place, host.drop (place + 1), ?_, ?_, ?_, by rw [← split]⟩
    · exact ⟨named, fun c member => noBlank c (by simp [member]), noAtInName⟩
    · apply isPart _ (List.take_subset _ _)
      rw [← List.length_pos_iff, List.length_take]
      omega
    · apply isPart _ (List.drop_subset _ _)
      rw [← List.length_pos_iff, List.length_drop]
      omega

/-- A trimmed text does not end with a blank. -/
theorem trimList_ne_append_blank {text line : List Char} {c : Char} (blank : Text.isBlank c = true) :
    Text.trimList text ≠ line ++ [c] := by
  intro ends
  have reversed := congrArg List.reverse ends
  rw [Text.trimList, List.reverse_reverse, List.reverse_append, List.reverse_singleton] at reversed
  have stops := List.head?_dropWhile_not Text.isBlank (text.dropWhile Text.isBlank).reverse
  rw [reversed] at stops
  simp [blank] at stops

/-- The check of email addresses accepts the texts that have the shape once they are trimmed. -/
theorem isEmailAddress_iff (text : String) :
    isEmailAddress text = true ↔ IsEmailShape (Text.trimList text.toList) := by
  have trimmed : (Text.trim text).toList = Text.trimList text.toList := String.toList_ofList
  have lineFeed : Text.isBlank '\n' = true := by decide
  refine (matchesStart_row_iff hasLanguage_emailParts _).trans ?_
  rw [trimmed, mem_emailLanguage_iff]
  refine or_iff_left ?_
  rintro ⟨line, -, ends⟩
  exact trimList_ne_append_blank lineFeed ends

variable {text : String}

/-- The field with the type and the rules. -/
def Field.retyped (field : Field) (type : FieldType) (rules : List (Entry ValidationRule)) :
    Field :=
  { field with type, validationRules := rules }

/-- The rule that asks for the format of email addresses. Its parameter does not matter. -/
def ValidationRule.emailFormat (parameter message : Value) : ValidationRule :=
  { kind := .known .emailFormat, parameter, message }

/-- Without rules a text that is there is held against the type alone. -/
theorem Field.validate_present (field : Field) (type : FieldType)
    (present : Text.isBlankText text = false) :
    (field.retyped type []).validate (.str text) = typeVerdict type field.label (.str text) := by
  have given : (Value.str text).isEmptyAnswer (some type) = false := present
  have noRules : compileRules type [] = .ok [] := rfl
  have verdict := validate_withRules (field.retyped type []) noRules (.str text)
  rw [verdict_nil, show (field.retyped type []).type = type from rfl, given,
    if_neg Bool.false_ne_true] at verdict
  exact verdict

/-- An email field without rules holds a text that is there against the pattern. -/
theorem Field.validate_email (field : Field) (present : Text.isBlankText text = false) :
    (field.retyped .email []).validate (.str text) =
      testVerdict field.label "must be a valid email address" (isEmailAddress text) := by
  rw [field.validate_present .email present]
  simp only [typeVerdict, Value.spell_str, Result.ok_bind]

/-- A test of every text of an answer is one test if the answer is a text. -/
theorem everyText_answerItems_str (passes : String → Bool) :
    Value.everyText passes (Value.str text).answerItems = .ok (passes text) := by
  change (if passes text then Except.ok true else Except.ok false) = Except.ok (passes text)
  cases passes text <;> rfl

/-- A text field with a rule for the format does so too, with the message of the rule. -/
theorem Field.validate_emailFormat (field : Field) (parameter message : Value)
    (present : Text.isBlankText text = false) :
    (field.retyped .text [.proper (.emailFormat parameter message)]).validate (.str text) =
      if isEmailAddress text then .ok none
      else do return some (← (ValidationRule.emailFormat parameter message).rejection field.label)
      := by
  have given : (Value.str text).isEmptyAnswer (some .text) = false := present
  have compiled : compileRules .text [.proper (.emailFormat parameter message)] =
      .ok [⟨.emailFormat parameter message,
        fun answer => Value.everyText isEmailAddress answer.answerItems⟩] := rfl
  have verdict := validate_withRules (field.retyped .text []) compiled (.str text)
  refine verdict.trans ?_
  have untyped : typeVerdict .text field.label (.str text) = .ok none := rfl
  have ofType : (field.retyped .text []).type = .text := rfl
  simp only [FieldContent.verdict, ofType, given, Bool.false_and, Bool.false_eq_true, if_false]
  simp only [Field.retyped, untyped, Result.ok_bind, rulesVerdict, Bool.false_and,
    Bool.false_eq_true, if_false, everyText_answerItems_str]

/-- The check of email addresses accepts its grammar. An email field without rules and a text field
that asks for the format of email addresses accept a text that is there exactly if, without the
blanks around it, it holds exactly one at sign and no blank, and has characters before the at sign
and behind it a host in which a point stands neither first nor last. Both give every such text a
verdict, as long as the label has a text for messages to name. -/
theorem Field.email_accepted_iff (field : Field) (parameter message : Value) (text : String)
    (present : Text.isBlankText text = false) :
    let byType := (field.retyped .email []).validate (.str text)
    let byRule :=
      (field.retyped .text [.proper (.emailFormat parameter message)]).validate (.str text)
    (byType = .ok none ↔ IsEmailShape (Text.trimList text.toList)) ∧
      (byRule = .ok none ↔ IsEmailShape (Text.trimList text.toList)) ∧
      (field.label.hasOverlong = false →
        (∃ verdict, byType = .ok verdict) ∧ ∃ verdict, byRule = .ok verdict) := by
  intro byType byRule
  have typed : byType = _ := validate_email field present
  have ruled : byRule = _ := validate_emailFormat field parameter message present
  rw [typed, ruled, ← isEmailAddress_iff]
  refine ⟨testVerdict_eq_ok_none_iff, ?_, fun legible => ?_⟩
  · split
    next accepted => simp [accepted]
    next rejected => simp [rejected, Result.bind_eq_ok_iff]
  · refine ⟨exists_testVerdict legible _ _, ?_⟩
    obtain ⟨said, isSaid⟩ := exists_rejection legible (.emailFormat parameter message)
    rw [isSaid]
    split <;> exact ⟨_, rfl⟩

/-- An address whose host has several points is accepted with blanks around it, by the field and by
the rule. One in whose host the only point stands first is answered with the message of the type,
so it does not have the shape. -/
theorem Field.email_accepted_iff_ada :
    Text.isBlankText " ada@mail.example.org\n" = false ∧
      IsEmailShape "ada@mail.example.org".toList ∧
      (ageField.retyped .email []).validate (.str " ada@mail.example.org\n") = .ok none ∧
      (ageField.retyped .text [.proper (.emailFormat .null (.str "Bad email"))]).validate
        (.str " ada@mail.example.org\n") = .ok none ∧
      (ageField.retyped .email []).validate (.str "ada@.org") =
        .ok (some (.str "Age must be a valid email address")) ∧
      ¬IsEmailShape "ada@.org".toList := by
  have present : Text.isBlankText " ada@mail.example.org\n" = false := by decide +kernel
  have pointPresent : Text.isBlankText "ada@.org" = false := by decide +kernel
  have unbroken : "ada@mail.example.org".toList.any Text.isBlank = false := by decide +kernel
  have shape : IsEmailShape "ada@mail.example.org".toList :=
    { oneAt := by decide +kernel
      noBlank := fun c member => Bool.eq_false_iff.mpr (List.any_eq_false.mp unbroken c member)
      parts := ⟨"ada".toList, "mail.example.org".toList, by decide +kernel, by decide +kernel, 4,
        by decide +kernel, by decide +kernel, by decide +kernel⟩ }
  have trimmed : Text.trimList " ada@mail.example.org\n".toList = "ada@mail.example.org".toList := by
    decide +kernel
  have pointTrimmed : Text.trimList "ada@.org".toList = "ada@.org".toList := by decide +kernel
  have rejected : (ageField.retyped .email []).validate (.str "ada@.org") =
      .ok (some (.str "Age must be a valid email address")) :=
    Result.toOption_eq_some_iff.mp (by decide +kernel)
  obtain ⟨typeAccepts, ruleAccepts, -⟩ :=
    ageField.email_accepted_iff .null (.str "Bad email") " ada@mail.example.org\n" present
  obtain ⟨pointAccepts, -, -⟩ := ageField.email_accepted_iff .null .null "ada@.org" pointPresent
  rw [trimmed] at typeAccepts ruleAccepts
  rw [pointTrimmed, rejected] at pointAccepts
  exact ⟨present, shape, typeAccepts.mpr shape, ruleAccepts.mpr shape, rejected,
    fun pointShape => nomatch pointAccepts.mpr pointShape⟩

end FormEngine
