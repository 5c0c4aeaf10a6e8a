import FormEngine.Number.Double

/-!
# The finite range of binary floating point

Which integers have a nearest finite number. The greatest finite number is 2 to the power 1024 less
one unit of its last place, and the integers that round to it end half a unit later: that half is a
tie, which goes to the power of two, for its significand is even.
-/

namespace FormEngine.Double

-- Powers are those of the core library, as in the module of the definitions.
attribute [local instance (high)] instPowNat

/-- The magnitude of the first integers past the finite range: 2 to the power 1024 less half the
last place of the greatest finite number. -/
def rangeEnd : Nat := (2 ^ (54 : Nat) - 1) * 2 ^ (970 : Nat)

/-- A quotient is rounded to its integer part or the integer after it. -/
theorem roundQuotient_bounds (numerator denominator : Nat) :
    numerator / denominator ≤ roundQuotient numerator denominator ∧
      roundQuotient numerator denominator ≤ numerator / denominator + 1 := by
  simp only [roundQuotient]
  split
  · omega
  · split <;> omega

/-- An even integer is passed or met from half a unit below it on. -/
theorem lt_roundQuotient_iff {numerator denominator bound : Nat} (odd : bound % 2 = 1)
    (positive : 0 < denominator) :
    bound < roundQuotient numerator denominator ↔
      2 * (bound * denominator) + denominator ≤ 2 * numerator := by
  have parts := Nat.div_add_mod numerator denominator
  have remainder := Nat.mod_lt numerator positive
  have near := roundQuotient_bounds numerator denominator
  rw [Nat.mul_comm] at parts
  rcases Nat.lt_trichotomy (numerator / denominator) bound with less | same | more
  · have product := Nat.mul_le_mul_right denominator (Nat.succ_le_of_lt less)
    rw [Nat.succ_mul] at product
    omega
  · rw [same] at parts
    simp only [roundQuotient, same]
    split
    · omega
    · split <;> omega
  · have product := Nat.mul_le_mul_right denominator (Nat.succ_le_of_lt more)
    rw [Nat.succ_mul] at product
    omega

/-- The significand of a magnitude that needs more than the smallest numbers' precision. -/
theorem significand_bounds {whole : Nat} (wide : 2 * significandBase ≤ whole) :
    2 ^ (whole.log2 - 52) * significandBase ≤ whole ∧
      whole < 2 ^ (whole.log2 - 52) * (2 * significandBase) := by
  have nonzero : whole ≠ 0 := by
    simp only [significandBase] at wide
    omega
  have size : 52 ≤ whole.log2 := by
    refine (Nat.le_log2 nonzero).mpr (Nat.le_trans ?_ wide)
    simp only [significandBase]
    omega
  have lower := Nat.log2_self_le nonzero
  have upper := Nat.lt_log2_self (n := whole)
  rw [← Nat.sub_add_cancel size, Nat.pow_add] at lower
  rw [← Nat.sub_add_cancel size, Nat.add_assoc, Nat.pow_add] at upper
  exact ⟨lower, upper⟩

/-- The exponent of a magnitude: none for the ones that need no rounding, and otherwise the one that
leaves a significand without leading zeros. -/
theorem exists_shift (whole : Nat) : ∃ shift,
    nearestCode whole 1 = shift * significandBase + roundQuotient whole (2 ^ shift) ∧
      (shift = 0 ∨ significandBase * 2 ^ shift ≤ whole) ∧
        whole < 2 * significandBase * 2 ^ shift := by
  by_cases wide : whole < 2 * significandBase
  · exact ⟨0, by simp [nearestCode, wide], .inl rfl, by simpa using wide⟩
  · obtain ⟨lower, upper⟩ := significand_bounds (Nat.not_lt.mp wide)
    rw [Nat.mul_comm] at lower upper
    exact ⟨whole.log2 - 52, by simp [nearestCode, wide], .inr lower, upper⟩

/-- The rounded significand of a magnitude. -/
theorem roundQuotient_significand {whole shift : Nat}
    (full : shift = 0 ∨ significandBase * 2 ^ shift ≤ whole)
    (fits : whole < 2 * significandBase * 2 ^ shift) :
    (shift = 0 ∨ significandBase ≤ roundQuotient whole (2 ^ shift)) ∧
      roundQuotient whole (2 ^ shift) ≤ 2 * significandBase := by
  have positive : 0 < 2 ^ shift := Nat.two_pow_pos shift
  obtain ⟨lower, upper⟩ := roundQuotient_bounds whole (2 ^ shift)
  have ceiling := (Nat.div_lt_iff_lt_mul positive).mpr fits
  refine ⟨full.imp_right fun full => ?_, by omega⟩
  exact Nat.le_trans ((Nat.le_div_iff_mul_le positive).mpr full) lower

/-- The units from which on a magnitude rounds up to the code that begins a binary exponent: half
a unit of the last place below it. -/
theorem le_nearestCode_iff (whole exponent : Nat) :
    (exponent + 3) * significandBase ≤ nearestCode whole 1 ↔
      (2 ^ (54 : Nat) - 1) * 2 ^ exponent ≤ whole := by
  have positive : 0 < 2 ^ exponent := Nat.two_pow_pos exponent
  have base : significandBase = 2 ^ (52 : Nat) := rfl
  obtain ⟨shift, code, full, fits⟩ := exists_shift whole
  obtain ⟨lower, upper⟩ := roundQuotient_significand full fits
  rw [code]
  rw [base] at *
  -- Only the exponent just below leaves it to the rounding.
  rcases Nat.lt_trichotomy shift (exponent + 1) with less | same | more
  · have small : 2 ^ shift ≤ 2 ^ exponent := Nat.pow_le_pow_right (by decide) (by omega)
    omega
  · have double : 2 ^ shift = 2 ^ exponent * 2 := by rw [same, Nat.pow_succ]
    have half := @lt_roundQuotient_iff whole (2 ^ shift) (2 ^ (53 : Nat) - 1) (by decide)
      (Nat.two_pow_pos shift)
    omega
  · have large : 2 ^ (exponent + 2) ≤ 2 ^ shift := Nat.pow_le_pow_right (by decide) more
    rw [Nat.pow_add] at large
    omega

/-- A rounded ratio is finite exactly if its code is one of the finite numbers. -/
theorem isFinite_ofRatio_iff {negative : Bool} {numerator denominator : Nat} :
    (ofRatio negative numerator denominator).isFinite = true ↔
      nearestCode (numerator * unitsPerOne) denominator < codeLimit := by
  rw [ofRatio]
  generalize nearestCode (numerator * unitsPerOne) denominator = code
  split
  next small => simp [isFinite, small]
  next large => simp [isFinite, large]

/-- A multiple of one power of two times another. -/
theorem mul_two_pow_mul (factor first second : Nat) :
    factor * 2 ^ first * 2 ^ second = factor * 2 ^ (first + second) := by
  rw [Nat.mul_assoc, Nat.pow_add]

/-- An integer has no nearest finite number exactly if its magnitude reaches the end of the
range. -/
theorem ofInt?_eq_none_iff {value : Int} : ofInt? value = none ↔ rangeEnd ≤ value.natAbs := by
  have inUnits : rangeEnd * unitsPerOne = (2 ^ (54 : Nat) - 1) * 2 ^ (970 + 1074) := by
    rw [rangeEnd, unitsPerOne, mul_two_pow_mul (2 ^ (54 : Nat) - 1) 970 1074]
  have limit : codeLimit = (970 + 1074 + 3) * significandBase := rfl
  have infinite : ofInt? value = none ↔
      ¬nearestCode (value.natAbs * unitsPerOne) 1 < codeLimit := by
    rw [← @isFinite_ofRatio_iff (decide (value < 0))]
    simp [ofInt?, finite?]
  rw [infinite, Nat.not_lt, limit, le_nearestCode_iff, ← inUnits]
  refine Nat.mul_le_mul_right_iff ?_
  unfold unitsPerOne
  generalize (1074 : Nat) = exponent
  exact Nat.two_pow_pos exponent

end FormEngine.Double
