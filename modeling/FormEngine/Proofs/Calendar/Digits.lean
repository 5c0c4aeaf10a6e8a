import FormEngine.Calendar.Iso

/-!
# Numbers of a fixed width

Dates and times are written as numbers of a fixed width, and they are read by taking as many
digits. What was written is what is taken, whatever stands behind it.
-/

namespace FormEngine.Iso

open FormEngine.Numeral

-- Powers are those of the core library, whatever algebra is in scope beside this module.
attribute [local instance (high)] instPowNat

/-- The two tests for ASCII digits agree. -/
theorem isDigit_eq (c : Char) : Numeral.isDigit c = c.isDigit := by
  simp [Numeral.isDigit, Char.isDigit, Char.le_def]

/-- Padding makes a number that fits the width exactly as long as the width. -/
theorem length_paddedDigits (width : Nat) {number : Nat} (wide : 0 < width) (small : number < 10 ^ width) :
    (paddedDigits width number).length = width := by
  have short : (decimalDigits number).length ≤ width :=
    (Nat.length_toDigits_le_iff (by decide) wide).mpr small
  simp only [paddedDigits, List.length_append, List.length_replicate]
  omega

/-- Padded numbers consist of digits. -/
theorem isDigit_of_mem_paddedDigits {width number : Nat} {c : Char}
    (member : c ∈ paddedDigits width number) : Numeral.isDigit c = true := by
  rw [isDigit_eq]
  simp only [paddedDigits, List.mem_append, List.mem_replicate] at member
  rcases member with ⟨-, rfl⟩ | digit
  · rfl
  · exact Nat.isDigit_of_mem_toDigits (by decide) (by decide) digit

/-- Leading zeros do not change the number that digits stand for. -/
theorem value_paddedDigits (width number : Nat) : value (paddedDigits width number) = number := by
  have unpadded : Nat.ofDigitChars 10 (Nat.toDigits 10 number) 0 = number :=
    Nat.ofDigitChars_ten_toDigits
  change Nat.ofDigitChars 10 (List.replicate _ '0' ++ Nat.toDigits 10 number) 0 = number
  rw [Nat.ofDigitChars_append, Nat.ofDigitChars_replicate_zero, Nat.mul_zero, unpadded]

/-- Taking as many digits as were written gives the number and what stands behind it. -/
theorem takeDigits_paddedDigits (width : Nat) {number : Nat} (wide : 0 < width)
    (small : number < 10 ^ width) (rest : List Char) :
    takeDigits width (paddedDigits width number ++ rest) = some (number, rest) := by
  have length := length_paddedDigits width wide small
  have taken : (paddedDigits width number ++ rest).take width = paddedDigits width number := by
    rw [List.take_append_of_le_length (by omega), List.take_of_length_le (by omega)]
  have dropped : (paddedDigits width number ++ rest).drop width = rest := by
    rw [List.drop_append_of_le_length (by omega), List.drop_of_length_le (by omega),
      List.nil_append]
  have digits : (paddedDigits width number).all Numeral.isDigit = true :=
    List.all_eq_true.mpr fun _ member => isDigit_of_mem_paddedDigits member
  simp [takeDigits, taken, dropped, length, digits, value_paddedDigits]

/-- Two digits, as hours, minutes, seconds, months and days have them. -/
theorem takeDigits_two {number : Nat} (small : number < 100) (rest : List Char) :
    takeDigits 2 (paddedDigits 2 number ++ rest) = some (number, rest) :=
  takeDigits_paddedDigits 2 (by decide) (by simpa using small) rest

/-- A padded number begins with a digit. -/
theorem paddedDigits_eq_cons (width : Nat) {number : Nat} (wide : 0 < width)
    (small : number < 10 ^ width) :
    ∃ digit rest, paddedDigits width number = digit :: rest ∧ Numeral.isDigit digit = true := by
  have length := length_paddedDigits width wide small
  match written : paddedDigits width number with
  | [] =>
    rw [written, List.length_nil] at length
    omega
  | digit :: rest =>
    exact ⟨digit, rest, rfl, isDigit_of_mem_paddedDigits (by rw [written]; simp)⟩

end FormEngine.Iso
