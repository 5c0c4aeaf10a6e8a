import FormEngine.Validation.Basic

/-!
# Messages that name their field

A generic message gets the label of its field in front. Lower case is decided character by
character, but for the sigma, which looks at the word around it. The blank behind the label ends
that word, so the label is lowered in front of a message as it is lowered by itself. A message that
was given the label is therefore known to name it.
-/

namespace FormEngine

namespace Text

/-- A character that ends the word before it: lowering a sigma looks neither past it nor at it. -/
structure IsBreak (c : Char) : Prop where
  notIgnored : caseIgnorableRanges.contains c = false
  notCased : casedRanges.contains c = false

/-- The space is such a character. -/
theorem isBreak_space : IsBreak ' ' :=
  ⟨by decide +kernel, by decide +kernel⟩

variable {c : Char}

/-- What follows a break has no part in whether a cased letter comes next. -/
theorem meetsCased_append_break (isBreak : IsBreak c) (text rest : List Char) :
    meetsCased (text ++ c :: rest) = meetsCased text := by
  unfold meetsCased
  rw [List.dropWhile_append, List.dropWhile_cons_of_neg (by simp [isBreak.notIgnored])]
  cases text.dropWhile caseIgnorableRanges.contains with
  | nil => simp [isBreak.notCased]
  | cons other others => rfl

/-- A text in front of a break is lowered as it is lowered by itself. -/
theorem lowerAfter_append_break (isBreak : IsBreak c) (before text rest : List Char) :
    lowerAfter before (text ++ c :: rest) =
      lowerAfter before text ++ lowerAfter (text.reverse ++ before) (c :: rest) := by
  induction text generalizing before with
  | nil => rfl
  | cons first others inductionHypothesis =>
    simp only [List.cons_append, lowerAfter, meetsCased_append_break isBreak, inductionHypothesis,
      List.reverse_cons, List.append_assoc, List.nil_append]

/-- The lower case of a text with a break in it begins with that of the part before the break. -/
theorem lowerCase_prefix (isBreak : IsBreak c) {text other : String} {rest : List Char}
    (made : other.toList = text.toList ++ c :: rest) :
    (lowerCase text).toList <+: (lowerCase other).toList := by
  simp only [lowerCase, String.toList_ofList, made, lowerAfter_append_break isBreak]
  exact List.prefix_append _ _

end Text

/-- The search for a text in another finds it exactly if it is part of it. -/
theorem occursIn_iff {part text : List Char} : occursIn part text = true ↔ part <:+: text := by
  induction text with
  | nil => simp [occursIn]
  | cons c rest inductionHypothesis =>
    rw [occursIn, Bool.or_eq_true, inductionHypothesis, List.isPrefixOf_iff_prefix,
      List.infix_cons_iff]

/-- A message that does not say which field it is about: one of the generic phrases occurs in it,
in whatever case. -/
def IsGeneric (message : String) : Prop :=
  ∃ phrase ∈ genericPhrases, phrase.toList <:+: (Text.lowerCase message).toList

/-- A message that names a label, in whatever case. -/
def Names (message label : String) : Prop :=
  (Text.lowerCase label).toList <:+: (Text.lowerCase message).toList

/-- The label and the lower case of the message with a space between them. -/
def prefixed (label message : String) : String :=
  label ++ " " ++ Text.lowerCase message

variable {label message : String}

theorem any_occursIn_iff : genericPhrases.any (fun phrase =>
    occursIn phrase.toList (Text.lowerCase message).toList) = true ↔ IsGeneric message := by
  simp only [List.any_eq_true, occursIn_iff, IsGeneric]

instance : Decidable (IsGeneric message) :=
  decidable_of_iff _ any_occursIn_iff

instance : Decidable (Names message label) :=
  decidable_of_iff _ occursIn_iff

/-- The label goes in front of exactly the generic messages that do not name it. -/
theorem nameField_str (label message : String) :
    nameField (.str label) message =
      .ok (.str (if IsGeneric message ∧ ¬Names message label then prefixed label message
        else message)) := by
  have generic : genericPhrases.any (fun phrase =>
      occursIn phrase.toList (Text.lowerCase message).toList) = decide (IsGeneric message) := by
    rw [Bool.eq_iff_iff, any_occursIn_iff, decide_eq_true_eq]
  have named : occursIn (Text.lowerCase label).toList (Text.lowerCase message).toList =
      decide (Names message label) := by
    rw [Bool.eq_iff_iff, occursIn_iff, decide_eq_true_eq, Names]
  simp only [nameField, generic, named, String.ofList_toList]
  by_cases names : Names message label
  · -- Whether the label stands in front or elsewhere, the message is left as it is.
    simp [names]
  · have notInFront : (Text.lowerCase label).toList.isPrefixOf (Text.lowerCase message).toList =
        false := by
      rw [Bool.eq_false_iff, ne_eq, List.isPrefixOf_iff_prefix]
      exact fun inFront => names inFront.isInfix
    simp only [notInFront, names, Bool.and_false, Bool.false_eq_true, if_false, decide_false,
      Bool.not_false, Bool.and_true, decide_eq_true_eq, not_false_eq_true, and_true]
    split <;> rfl

/-- A message with a label in front of it names that label. -/
theorem names_prefixed (label message : String) : Names (prefixed label message) label := by
  have made : (prefixed label message).toList =
      label.toList ++ ' ' :: (Text.lowerCase message).toList := by
    simp [prefixed]
  exact (Text.lowerCase_prefix Text.isBreak_space made).isInfix

/-- Naming the field changes a message at most once and makes every generic message name its field.
The message that a text label is put in front of names the label in whatever case, so that nothing
is put in front of it again. A message without any of the generic phrases stays as it is. -/
theorem nameField_names (label message : String) :
    ∃ named, nameField (.str label) message = .ok (.str named) ∧
      nameField (.str label) named = .ok (.str named) ∧
      (¬IsGeneric message → named = message) ∧
      (IsGeneric message → Names named label) := by
  refine ⟨_, nameField_str label message, ?_⟩
  by_cases lacking : IsGeneric message ∧ ¬Names message label
  · rw [if_pos lacking, nameField_str, if_neg fun again => again.2 (names_prefixed label message)]
    exact ⟨rfl, fun notGeneric => absurd lacking.1 notGeneric,
      fun _ => names_prefixed label message⟩
  · rw [if_neg lacking, nameField_str, if_neg lacking]
    refine ⟨rfl, fun _ => rfl, fun generic => ?_⟩
    exact Decidable.byContradiction fun notNamed => lacking ⟨generic, notNamed⟩

/-- The label ends with a capital sigma, which ends a word in the message too. -/
example : (nameField (.str "ΟΔΟΣ") "MUST BE short").toOption = some (.str "ΟΔΟΣ must be short") ∧
    (nameField (.str "ΟΔΟΣ") "ΟΔΟΣ must be short").toOption =
      some (.str "ΟΔΟΣ must be short") := by
  decide +kernel

end FormEngine
