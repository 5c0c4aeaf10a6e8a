import FormEngine.Proofs.Calendar.RoundTrip
import FormEngine.Value.Text

/-!
# The text of values that count

What counts as something has a text, so an id that is made of it is not empty.
-/

namespace FormEngine

/-- A text that begins with a character is not empty. -/
theorem ofList_ne_empty {characters : List Char} (some : characters ≠ []) :
    String.ofList characters ≠ "" := by
  intro empty
  apply some
  simpa using congrArg String.toList empty

/-- An integer has a text. -/
theorem intText_ne_empty (value : Int) : intText value ≠ "" := by
  have digits : String.ofList (decimalDigits value.natAbs) ≠ "" :=
    ofList_ne_empty Nat.toDigits_ne_nil
  unfold intText
  split
  · simp
  · exact digits

/-- A number has a text. -/
theorem Double.text_ne_empty (value : Double) : value.text ≠ "" := by
  cases value with
  | nan => decide
  | infinite negative => cases negative <;> decide
  | finite negative code =>
    have digits : ∀ digits, plainDecimal.digitsText digits ≠ "" := by
      intro digits
      simp only [DecimalStyle.digitsText]
      split
      all_goals exact ofList_ne_empty (by simp)
    have magnitude : (if code = 0 then "0.0"
        else plainDecimal.digitsText (Double.shortest code)) ≠ "" := by
      split
      · decide
      · exact digits _
    cases negative with
    | false => simpa [Double.text, DecimalStyle.text] using magnitude
    | true => simp [Double.text, DecimalStyle.text]

/-- What counts as something has a text. -/
theorem Value.text_ne_empty {value : Value} (counts : value.truthy = true) : value.text ≠ "" := by
  cases value with
  | null => cases counts
  | bool value => cases value <;> decide
  | int value => exact intText_ne_empty value
  | float value => exact Double.text_ne_empty value
  | str text => simpa [Value.truthy, Value.text] using counts
  | date day =>
    apply ofList_ne_empty
    simp [Iso.dateText]
  | dateTime moment =>
    apply ofList_ne_empty
    simp [Iso.dateTimeText_eq]
  | collection shape items =>
    simp only [Value.text, Value.display, bracketed]
    split <;> simp
  | map entries => simp [Value.text, Value.display]

end FormEngine
