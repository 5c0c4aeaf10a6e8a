import FormEngine.Answer
import FormEngine.Proofs.Number.Double
import FormEngine.Proofs.Value.Spelling

/-!
# Answers that can not be read

Reading an answer as a number fails for integers past the finite range, and taking it for a text
fails for values that hold an overlong integer. Nothing else stands in the way of either.
-/

namespace FormEngine.Value

/-- An integer that no finite number is near to. -/
def IsPastRange (value : Value) : Prop :=
  ∃ number : Int, value = .int number ∧ Double.rangeEnd ≤ number.natAbs

/-- Only an integer past the finite range can not be taken for a number. -/
theorem number?_eq_error_iff {value : Value} {fault : Fault} :
    value.number? = .error fault ↔ value.IsPastRange ∧ fault = .integerToFloat := by
  unfold IsPastRange
  cases value with
  | int number =>
    have past := @Double.ofInt?_eq_none_iff number
    rw [number?]
    cases near : Double.ofInt? number with
    | none => simp [← past, near, eq_comm]
    | some nearest => simp [← past, near]
  | _ => simp [number?]

/-- An answer has no length if it would have to be spelled for it and can not be. -/
theorem answerLength_eq_error_iff {answer : Value} {fault : Fault} :
    answer.answerLength = .error fault ↔
      answer.isCollection = false ∧ answer.hasOverlong = true ∧ fault = .integerUnwritten := by
  unfold answerLength
  split
  next => simp [isCollection]
  next other =>
    have single : answer.isCollection = false := by
      cases answer with
      | collection shape items => exact absurd rfl (other shape items)
      | _ => rfl
    rw [Result.map_eq_error_iff, spell_eq_error_iff]
    simp [single]

/-- The search through the texts of items fails at an item without one, if all before it pass. -/
theorem everyText_eq_error_iff {passes : String → Bool} {items : List Value} {fault : Fault} :
    everyText passes items = .error fault ↔
      ComesTo (fun item => item.hasOverlong = false ∧ passes item.text = true)
        (fun item => item.hasOverlong = true) items ∧ fault = .integerUnwritten := by
  induction items with
  | nil => simp [everyText]
  | cons item rest inductionHypothesis =>
    rw [everyText, comesTo_cons]
    cases spelled : item.spell with
    | error other =>
      obtain ⟨overlong, rfl⟩ := spell_eq_error_iff.mp spelled
      simpa [overlong] using eq_comm
    | ok text =>
      obtain ⟨short, rfl⟩ := spell_eq_ok_iff.mp spelled
      cases accepted : passes item.text <;> simp [short, accepted, inductionHypothesis]

end FormEngine.Value
