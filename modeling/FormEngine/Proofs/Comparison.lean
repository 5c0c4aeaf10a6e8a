import FormEngine.Proofs.Number.Rounding
import FormEngine.Proofs.Visibility

/-!
# Integers above, at and below another

A condition asks whether an integer is equal to another one, or whether it is greater or less.
Equality is that of integers, but the order is that of the numbers nearest to them, and past the
precision of these two integers can round to one number. Such integers are neither equal nor
ordered. All others are divided by the three conditions as they are by their own order.
-/

namespace FormEngine

-- Powers are those of the core library, as in the module of the numbers.
attribute [local instance (high)] instPowNat

/-- The operators that place an integer at, above or below another. -/
def Operator.placing : List Operator := [.equals, .greaterThan, .lessThan]

/-- The operator tells the place of an integer to another one. -/
inductive Operator.Places (answer comparison : Int) : Operator → Prop
  | equals (same : answer = comparison) : Places answer comparison .equals
  | greaterThan (above : comparison < answer) : Places answer comparison .greaterThan
  | lessThan (below : answer < comparison) : Places answer comparison .lessThan

/-- Verdicts on the three conditions that divide two integers: what holds is true of them, one of the
conditions holds if they are kept apart by rounding, and none if they are not. -/
structure Operator.Divides (answer comparison : Int) (apart : Prop)
    (verdict : Operator → Except Fault Bool) : Prop where
  sound : ∀ operator ∈ placing, verdict operator = .ok true → operator.Places answer comparison
  exactlyOne : apart → ∃! operator, operator ∈ placing ∧ verdict operator = .ok true
  none : ¬apart → ∀ operator ∈ placing, verdict operator = .ok false

variable {answer comparison : Int} {operator other : Operator} {apart : Prop}

/-- An integer has at most one place to another. -/
theorem Operator.Places.unique (placed : operator.Places answer comparison)
    (otherPlaced : other.Places answer comparison) : operator = other := by
  cases placed <;> cases otherPlaced <;> first | rfl | omega

/-- An integer has a place to every other. -/
theorem Operator.exists_places (answer comparison : Int) :
    ∃ operator ∈ placing, operator.Places answer comparison := by
  rcases lt_trichotomy answer comparison with below | same | above
  · exact ⟨.lessThan, by simp [placing], .lessThan below⟩
  · exact ⟨.equals, by simp [placing], .equals same⟩
  · exact ⟨.greaterThan, by simp [placing], .greaterThan above⟩

/-- Verdicts divide two integers if each is that the integers are kept apart and have the place. -/
theorem Operator.divides_of_met {verdict : Operator → Except Fault Bool}
    (each : ∀ operator ∈ placing, ∃ met, verdict operator = .ok met ∧
      (met = true ↔ operator.Places answer comparison ∧ apart)) :
    Divides answer comparison apart verdict := by
  have holds_iff (operator) (member : operator ∈ placing) :
      verdict operator = .ok true ↔ operator.Places answer comparison ∧ apart := by
    obtain ⟨met, given, isMet⟩ := each operator member
    rw [given, Except.ok.injEq, isMet]
  refine ⟨fun operator member holds => ?_, fun isApart => ?_, fun notApart operator member => ?_⟩
  · exact ((holds_iff operator member).mp holds).1
  · obtain ⟨operator, member, placed⟩ := exists_places answer comparison
    refine ⟨operator, ⟨member, (holds_iff operator member).mpr ⟨placed, isApart⟩⟩, ?_⟩
    rintro other ⟨otherMember, holds⟩
    exact ((holds_iff other otherMember).mp holds).1.unique placed
  · obtain ⟨met, given, isMet⟩ := each operator member
    rw [given, Bool.eq_false_iff.mpr fun met => notApart (isMet.mp met).2]

/-- The condition that an answer has a place to an integer. -/
def ConditionalRule.placing (trigger : String) (operator : Operator) (comparison : Int) :
    ConditionalRule :=
  { trigger := .str trigger, operator := .known operator, comparison := .int comparison }

section Nearest

variable {number limit : Double} (nearest : Double.ofInt? answer = some number)
  (limitNearest : Double.ofInt? comparison = some limit)
include nearest limitNearest

/-- Integers are compared by the numbers nearest to them. -/
theorem Value.compareNumbers_int (holds : Double → Double → Bool) :
    (Value.int answer).compareNumbers holds (.int comparison) = .ok (holds number limit) := by
  simp [compareNumbers, number?, nearest, limitNearest]

/-- Of the numbers nearest to two integers the first is less exactly if the integer is, and if it
does not round to the same number. -/
theorem Double.lessThan_iff_of_ofInt? :
    number.lessThan limit = true ↔ answer < comparison ∧ number ≠ limit := by
  have order : number.lessThan limit = true ↔ nearestUnits answer < nearestUnits comparison := by
    rw [lessThan, ofDouble?_of_ofInt? nearest, ofDouble?_of_ofInt? limitNearest]
    exact decide_eq_true_iff
  rw [order, ne_eq, eq_iff_of_ofInt? nearest limitNearest]
  constructor
  · intro less
    refine ⟨?_, less.ne⟩
    by_contra notLess
    exact (nearestUnits_mono (Int.not_lt.mp notLess)).not_gt less
  · rintro ⟨less, differ⟩
    exact lt_of_le_of_ne (nearestUnits_mono less.le) differ

/-- A condition on the place of an integer holds exactly if it has the place and if both integers
are the same or round to two numbers. -/
theorem ConditionalRule.placing_holds (trigger : String) (type : Option FieldType)
    (member : operator ∈ Operator.placing) :
    ∃ met, (placing trigger operator comparison).holds (.int answer) type = .ok met ∧
      (met = true ↔
        operator.Places answer comparison ∧ (answer = comparison ∨ number ≠ limit)) := by
  simp only [Operator.placing, List.mem_cons, List.not_mem_nil, or_false] at member
  rcases member with rfl | rfl | rfl
  · refine ⟨decide (answer = comparison), congrArg _ (Value.sameUpTo_int false _ _), ?_⟩
    rw [decide_eq_true_iff]
    constructor
    · exact fun same => ⟨.equals same, .inl same⟩
    · rintro ⟨placed, -⟩
      cases placed with
      | equals same => exact same
  · refine ⟨_, Value.compareNumbers_int nearest limitNearest _, ?_⟩
    rw [Double.lessThan_iff_of_ofInt? limitNearest nearest]
    constructor
    · exact fun ⟨above, differ⟩ => ⟨.greaterThan above, .inr differ.symm⟩
    · rintro ⟨placed, apart⟩
      cases placed with
      | greaterThan above => exact ⟨above, (apart.resolve_left above.ne').symm⟩
  · refine ⟨_, Value.compareNumbers_int nearest limitNearest _, ?_⟩
    rw [Double.lessThan_iff_of_ofInt? nearest limitNearest]
    constructor
    · exact fun ⟨below, differ⟩ => ⟨.lessThan below, .inr differ⟩
    · rintro ⟨placed, apart⟩
      cases placed with
      | lessThan below => exact ⟨below, apart.resolve_left below.ne⟩

end Nearest

/-- A field with one condition, on a field that is there, is visible as the condition says of the
answer to that field. -/
theorem Field.isVisible_of_one {field trigger : Field} {rule : ConditionalRule} {id : String}
    {fields : List Field} {answers : Answers} (gated : field.conditionalRules = [.proper rule])
    (triggered : rule.trigger = .str id) (found : referredField? fields id = some trigger) :
    field.isVisible fields answers =
      rule.holds ((answers.get? trigger.id).getD (.str "")) (some trigger.type) := by
  have alone : rule.isMet fields answers =
      rule.holds ((answers.get? trigger.id).getD (.str "")) (some trigger.type) := by
    rw [ConditionalRule.isMet, ConditionalRule.triggerField?_of_text triggered, found]
    rfl
  rw [isVisible, gated, allMet, Entry.conditionOf, Result.ok_bind, alone]
  cases rule.holds ((answers.get? trigger.id).getD (.str "")) (some trigger.type) with
  | error fault => rfl
  | ok met => cases met <;> rfl

/-- Conditions divide the integers that have a nearest number. Whether an answer is equal to an
integer, greater than it or less than it, what holds is true of the integers themselves. Exactly one
of the three holds, and exactly one of three fields with these conditions is visible, if the
integers are the same or round to two numbers, as all integers do that are no larger than 2 to the
power 53. Otherwise none of the conditions holds and none of the fields is visible. -/
theorem Operator.divides_integers {answer comparison : Int} {number limit : Double}
    (nearest : Double.ofInt? answer = some number)
    (limitNearest : Double.ofInt? comparison = some limit) :
    let apart := answer = comparison ∨ number ≠ limit
    (∀ trigger type, Divides answer comparison apart fun operator =>
      (ConditionalRule.placing trigger operator comparison).holds (.int answer) type) ∧
    (∀ (fields : List Field) (answers : Answers) id trigger (gated : Operator → Field),
      referredField? fields id = some trigger → answers.get? trigger.id = some (.int answer) →
      (∀ operator ∈ placing,
        (gated operator).conditionalRules = [.proper (.placing id operator comparison)]) →
      Divides answer comparison apart fun operator => (gated operator).isVisible fields answers) ∧
    (answer.natAbs ≤ 2 ^ (53 : Nat) → comparison.natAbs ≤ 2 ^ (53 : Nat) → apart) := by
  intro apart
  refine ⟨fun trigger type => ?_, fun fields answers id trigger gated found answered rules => ?_,
    fun answerFits comparisonFits => ?_⟩
  · apply divides_of_met
    intro operator member
    exact ConditionalRule.placing_holds nearest limitNearest trigger type member
  · apply divides_of_met
    intro operator member
    rw [Field.isVisible_of_one (rules operator member) rfl found, answered, Option.getD_some]
    exact ConditionalRule.placing_holds nearest limitNearest id (some trigger.type) member
  · by_cases same : number = limit
    · rw [Double.eq_iff_of_ofInt? nearest limitNearest,
        Double.nearestUnits_of_natAbs_le answerFits, Double.nearestUnits_of_natAbs_le comparisonFits,
        Int.mul_eq_mul_right_iff Value.unitsPerOne_pos.ne'] at same
      exact .inl same
    · exact .inr same

/-- A number to which conditions refer. -/
def amountField : Field :=
  { type := .number, label := .str "Amount", id := "amount" }

/-- The field that is asked for if the number has a place to an integer. -/
def placedField (comparison : Int) (operator : Operator) : Field :=
  { type := .text, label := .str operator.wire, id := operator.wire
    conditionalRules := [.proper (.placing "amount" operator comparison)] }

/-- The form with the number and a field for each place of it. -/
def placedForm (comparison : Int) : List Field :=
  amountField :: Operator.placing.map (placedField comparison)

/-- The answers with the number. -/
def amountAnswers (answer : Int) : Answers :=
  Table.ofList [("amount", .int answer)]

/-- Past the precision of numbers 2 to the power 53 is still told apart from the integer two above
it: one condition on that answer holds, and one of the fields is visible. -/
theorem Operator.divides_integers_two_above :
    let comparison : Int := 9007199254740992
    let answer : Int := 9007199254740994
    let number := Double.finite false (1076 * Double.significandBase + 1)
    let limit := Double.finite false (1076 * Double.significandBase)
    Double.ofInt? answer = some number ∧ Double.ofInt? comparison = some limit ∧
      number ≠ limit ∧
      (∃! operator, operator ∈ placing ∧
        (ConditionalRule.placing "amount" operator comparison).holds (.int answer)
          (some .number) = .ok true) ∧
      ∃! operator, operator ∈ placing ∧
        (placedField comparison operator).isVisible (placedForm comparison)
          (amountAnswers answer) = .ok true := by
  intro comparison answer number limit
  have nearest : Double.ofInt? answer = some number := by decide +kernel
  have limitNearest : Double.ofInt? comparison = some limit := by decide +kernel
  have differ : number ≠ limit := by decide +kernel
  have found : referredField? (placedForm comparison) "amount" = some amountField := by
    decide +kernel
  obtain ⟨ofRules, ofFields, -⟩ := divides_integers nearest limitNearest
  refine ⟨nearest, limitNearest, differ, ?_, ?_⟩
  · exact (ofRules "amount" (some .number)).exactlyOne (.inr differ)
  · exact (ofFields _ (amountAnswers answer) "amount" amountField (placedField comparison) found rfl
      fun operator _ => rfl).exactlyOne (.inr differ)

/-- The integer next to 2 to the power 53 rounds to it. It has a nearest number, but none of the
conditions holds and none of the fields is visible. -/
theorem Operator.not_existsUnique_one_above :
    let comparison : Int := 9007199254740992
    let answer : Int := 9007199254740993
    (Double.ofInt? answer).isSome = true ∧ (Double.ofInt? comparison).isSome = true ∧
      (¬∃! operator, operator ∈ placing ∧
        (ConditionalRule.placing "amount" operator comparison).holds (.int answer)
          (some .number) = .ok true) ∧
      ¬∃! operator, operator ∈ placing ∧
        (placedField comparison operator).isVisible (placedForm comparison)
          (amountAnswers answer) = .ok true := by
  intro comparison answer
  have noRule : ∀ operator ∈ placing,
      ((ConditionalRule.placing "amount" operator comparison).holds (.int answer)
        (some .number)).toOption = some false := by
    decide +kernel
  have noField : ∀ operator ∈ placing,
      ((placedField comparison operator).isVisible (placedForm comparison)
        (amountAnswers answer)).toOption = some false := by
    decide +kernel
  refine ⟨by decide +kernel, by decide +kernel, ?_, ?_⟩
  · rintro ⟨operator, ⟨member, holds⟩, -⟩
    have fails := noRule operator member
    rw [holds] at fails
    cases fails
  · rintro ⟨operator, ⟨member, visible⟩, -⟩
    have hidden := noField operator member
    rw [visible] at hidden
    cases hidden

end FormEngine
