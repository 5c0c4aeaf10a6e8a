import FormEngine.Proofs.Number.Double
import FormEngine.Proofs.Value.Order
import Mathlib.Algebra.Order.Group.Defs
import Mathlib.Order.Monotone.Odd

/-!
# Rounding keeps the order

Integers round to the nearest finite number. A larger integer never rounds to a smaller number, and
integers of few binary digits are numbers themselves, so they stay apart. Both are said of the exact
value that rounding leaves.
-/

namespace FormEngine.Double

-- Powers are those of the core library, as in the module of the definitions.
attribute [local instance (high)] instPowNat

/-- Some magnitudes share a binary exponent. -/
theorem significandBase_pos : 0 < significandBase := by
  rw [significandBase]
  omega

/-- A code is a binary exponent and a significand, which needs leading zeros only where the exponent
is the least. -/
theorem units_code {shift significand : Nat} (full : shift = 0 ∨ significandBase ≤ significand)
    (fits : significand ≤ 2 * significandBase) :
    units (shift * significandBase + significand) = significand * 2 ^ shift := by
  have positive := significandBase_pos
  rcases Nat.lt_or_ge significand significandBase with small | large
  · obtain rfl : shift = 0 := by omega
    simp [units, small]
  · obtain ⟨rest, rfl⟩ := Nat.exists_eq_add_of_le large
    have code : shift * significandBase + (significandBase + rest) =
        rest + significandBase * (shift + 1) := by
      rw [Nat.mul_comm significandBase, Nat.succ_mul]
      omega
    have notSmall : ¬rest + significandBase * (shift + 1) < significandBase := by
      rw [Nat.mul_succ]
      omega
    rw [code, units, if_neg notSmall, Nat.add_mul_mod_self_left, Nat.add_mul_div_left _ _ positive]
    -- The significand past the greatest one begins the next exponent.
    rcases Nat.lt_or_ge rest significandBase with less | full
    · rw [Nat.mod_eq_of_lt less, Nat.div_eq_of_lt less]
      simp
    · obtain rfl : rest = significandBase := by omega
      rw [Nat.mod_self, Nat.div_self positive, Nat.add_zero,
        show 1 + (shift + 1) - 1 = shift + 1 by omega, Nat.pow_succ, Nat.mul_comm (2 ^ shift),
        ← Nat.mul_assoc]
      congr 1

/-- Every code has an exponent and a significand that begins the next exponent when it grows. -/
theorem exists_significand (code : Nat) : ∃ shift significand,
    code = shift * significandBase + significand ∧
      (shift = 0 ∨ significandBase ≤ significand) ∧ significand < 2 * significandBase := by
  have positive := significandBase_pos
  have parts := Nat.div_add_mod code significandBase
  have remainder := Nat.mod_lt code positive
  rw [Nat.mul_comm] at parts
  cases exponent : code / significandBase with
  | zero =>
    rw [exponent] at parts
    exact ⟨0, code, by omega, .inl rfl, by omega⟩
  | succ shift =>
    rw [exponent, Nat.succ_mul] at parts
    exact ⟨shift, significandBase + code % significandBase, by omega, .inr (by omega), by omega⟩

/-- A larger code is a larger magnitude. -/
theorem units_strictMono : StrictMono units := by
  refine strictMono_nat_of_lt_succ fun code => ?_
  obtain ⟨shift, significand, rfl, full, fits⟩ := exists_significand code
  rw [Nat.add_assoc, units_code full (by omega), units_code (by omega) (by omega)]
  exact Nat.mul_lt_mul_of_pos_right (Nat.lt_succ_self _) (Nat.two_pow_pos _)

/-- A larger numerator does not round to a smaller quotient. -/
theorem roundQuotient_mono (denominator : Nat) : Monotone (roundQuotient · denominator) := by
  intro numerator other grows
  have first := roundQuotient_bounds numerator denominator
  have second := roundQuotient_bounds other denominator
  have quotients := Nat.div_le_div_right (c := denominator) grows
  rcases Nat.lt_or_eq_of_le quotients with less | same
  · exact first.2.trans (Nat.le_trans less second.1)
  · have parts := Nat.div_add_mod numerator denominator
    have otherParts := Nat.div_add_mod other denominator
    rw [← same] at otherParts
    simp only [roundQuotient, ← same]
    split_ifs <;> omega

/-- A quotient without a rest is not rounded. -/
theorem roundQuotient_mul (quotient : Nat) {denominator : Nat} (positive : 0 < denominator) :
    roundQuotient (quotient * denominator) denominator = quotient := by
  simp [roundQuotient, Nat.mul_mod_left, Nat.mul_div_cancel _ positive, positive]

/-- A larger magnitude does not round to a smaller code. -/
theorem nearestCode_mono : Monotone (nearestCode · 1) := by
  intro whole other grows
  obtain ⟨shift, code, full, fits⟩ := exists_shift whole
  obtain ⟨otherShift, otherCode, otherFull, otherFits⟩ := exists_shift other
  simp only [code, otherCode]
  have exponents : shift ≤ otherShift := by
    by_contra less
    have powers : 2 ^ (otherShift + 1) ≤ 2 ^ shift := Nat.pow_le_pow_right (by omega) (by omega)
    have ends := Nat.mul_le_mul_left significandBase powers
    rw [Nat.pow_succ, Nat.mul_comm _ 2, ← Nat.mul_assoc, Nat.mul_comm significandBase 2] at ends
    omega
  rcases Nat.lt_or_eq_of_le exponents with less | rfl
  · -- A smaller exponent ends where the next one begins.
    have upper := (roundQuotient_significand full fits).2
    have lower := (roundQuotient_significand otherFull otherFits).1
    have gap := Nat.mul_le_mul_right significandBase (Nat.succ_le_of_lt less)
    rw [Nat.succ_mul] at gap
    omega
  · exact Nat.add_le_add_left (roundQuotient_mono _ grows) _

/-- A magnitude whose significand fits is not rounded. -/
theorem units_nearestCode {significand : Nat} (fits : significand ≤ 2 * significandBase)
    (exponent : Nat) :
    units (nearestCode (significand * 2 ^ exponent) 1) = significand * 2 ^ exponent := by
  obtain ⟨shift, code, full, inside⟩ := exists_shift (significand * 2 ^ exponent)
  have bounds := roundQuotient_significand full inside
  rw [code, units_code bounds.1 bounds.2]
  have divides : 2 ^ shift ∣ significand * 2 ^ exponent := by
    rcases Nat.lt_or_ge exponent shift with less | enough
    · -- Only the significand that begins the next exponent is left.
      have lower := full.resolve_left (by omega)
      have upper : significand * 2 ^ exponent ≤ significandBase * 2 ^ shift := calc
        significand * 2 ^ exponent ≤ 2 * significandBase * 2 ^ exponent :=
          Nat.mul_le_mul_right _ fits
        _ = significandBase * 2 ^ (exponent + 1) := by
          rw [Nat.pow_succ, Nat.mul_comm 2, Nat.mul_assoc, Nat.mul_comm 2]
        _ ≤ significandBase * 2 ^ shift :=
          Nat.mul_le_mul_left _ (Nat.pow_le_pow_right (by omega) less)
      rw [Nat.le_antisymm upper lower]
      exact Nat.dvd_mul_left _ _
    · exact Nat.dvd_mul_left_of_dvd (Nat.pow_dvd_pow 2 enough) _
  obtain ⟨quotient, whole⟩ := divides
  rw [whole, Nat.mul_comm (2 ^ shift), roundQuotient_mul _ (Nat.two_pow_pos shift)]

/-- Codes with one sign are told apart by their exact values. -/
theorem signedUnits_injective (negative : Bool) : Function.Injective (signedUnits negative) := by
  intro code other same
  apply units_strictMono.injective
  cases negative with
  | false => exact Int.ofNat_inj.mp same
  | true => exact Int.ofNat_inj.mp (Int.neg_inj.mp same)

/-- The exact value of the number nearest to an integer, in units. -/
def nearestUnits (value : Int) : Int :=
  signedUnits (decide (value < 0)) (nearestCode (value.natAbs * unitsPerOne) 1)

/-- An integer that is not negative rounds as its magnitude does. -/
theorem nearestUnits_natCast (magnitude : Nat) :
    nearestUnits magnitude = units (nearestCode (magnitude * unitsPerOne) 1) := by
  simp [nearestUnits, signedUnits]

/-- A negative integer rounds as its magnitude does. -/
theorem nearestUnits_neg_natCast (magnitude : Nat) :
    nearestUnits (-magnitude) = -units (nearestCode (magnitude * unitsPerOne) 1) := by
  cases magnitude with
  | zero =>
    have exact := units_nearestCode (Nat.zero_le (2 * significandBase)) 0
    simp only [Nat.zero_mul] at exact
    simp [nearestUnits, signedUnits, exact]
  | succ predecessor =>
    have negative : -((predecessor + 1 : Nat) : Int) < 0 := by omega
    simp only [nearestUnits, signedUnits, negative, decide_true, if_true, Int.natAbs_neg,
      Int.natAbs_natCast]

/-- Integers of opposite signs round to opposite values. -/
theorem nearestUnits_neg (value : Int) : nearestUnits (-value) = -nearestUnits value := by
  obtain ⟨magnitude, rfl | rfl⟩ := value.eq_nat_or_neg
  · rw [nearestUnits_neg_natCast, nearestUnits_natCast]
  · rw [Int.neg_neg, nearestUnits_neg_natCast, nearestUnits_natCast, Int.neg_neg]

/-- An integer that needs no more binary digits than a significand has is not rounded. -/
theorem nearestUnits_of_natAbs_le {value : Int} (fits : value.natAbs ≤ 2 * significandBase) :
    nearestUnits value = value * unitsPerOne := by
  have exact := units_nearestCode fits 1074
  rw [← unitsPerOne] at exact
  obtain ⟨magnitude, rfl | rfl⟩ := value.eq_nat_or_neg
  · rw [Int.natAbs_natCast] at exact
    rw [nearestUnits_natCast, exact, Int.natCast_mul]
  · rw [Int.natAbs_neg, Int.natAbs_natCast] at exact
    rw [nearestUnits_neg_natCast, exact, Int.natCast_mul, Int.neg_mul]

/-- A larger integer does not round to a smaller value. -/
theorem nearestUnits_mono {value other : Int} (grows : value ≤ other) :
    nearestUnits value ≤ nearestUnits other := by
  apply monotone_of_odd_of_monotoneOn_nonneg nearestUnits_neg _ grows
  intro first positive second secondPositive grows
  obtain ⟨magnitude, rfl⟩ := Int.eq_ofNat_of_zero_le positive
  obtain ⟨otherMagnitude, rfl⟩ := Int.eq_ofNat_of_zero_le secondPositive
  rw [nearestUnits_natCast, nearestUnits_natCast, Int.ofNat_le]
  have magnitudes := Nat.mul_le_mul_right unitsPerOne (Int.ofNat_le.mp grows)
  exact units_strictMono.monotone (nearestCode_mono magnitudes)

/-- The negative integers are the ones that round to negative values. -/
theorem nearestUnits_neg_iff {value : Int} : nearestUnits value < 0 ↔ value < 0 := by
  have one : nearestUnits (-1) = -1 * unitsPerOne := by
    apply nearestUnits_of_natAbs_le
    rw [significandBase]
    omega
  have unit := Value.unitsPerOne_pos
  constructor
  · intro rounded
    by_contra positive
    obtain ⟨magnitude, rfl⟩ := Int.eq_ofNat_of_zero_le (Int.not_lt.mp positive)
    rw [nearestUnits_natCast] at rounded
    omega
  · intro negative
    have below : nearestUnits value ≤ nearestUnits (-1) := nearestUnits_mono (by omega)
    omega

section Nearest

variable {value other : Int} {number otherNumber : Double} (nearest : ofInt? value = some number)
include nearest

/-- The number nearest to an integer has the sign and the rounded magnitude of it. -/
theorem eq_of_ofInt? :
    number = .finite (decide (value < 0)) (nearestCode (value.natAbs * unitsPerOne) 1) := by
  simp only [ofInt?, finite?, ofRatio] at nearest
  split at nearest
  · split at nearest
    · exact (Option.some.inj nearest).symm
    · cases nearest
  · cases nearest

/-- The point of the number nearest to an integer. -/
theorem ofDouble?_of_ofInt? : Point.ofDouble? number = some (.exact (nearestUnits value)) := by
  rw [eq_of_ofInt? nearest]
  rfl

variable (otherNearest : ofInt? other = some otherNumber)
include otherNearest

/-- The numbers nearest to two integers are the same exactly if their exact values are. -/
theorem eq_iff_of_ofInt? : number = otherNumber ↔ nearestUnits value = nearestUnits other := by
  constructor
  · rintro rfl
    have same := (ofDouble?_of_ofInt? nearest).symm.trans (ofDouble?_of_ofInt? otherNearest)
    exact Point.exact.inj (Option.some.inj same)
  · intro same
    have signs : value < 0 ↔ other < 0 := by
      rw [← nearestUnits_neg_iff, same, nearestUnits_neg_iff]
    rw [nearestUnits, nearestUnits, decide_eq_decide.mpr signs] at same
    rw [eq_of_ofInt? nearest, eq_of_ofInt? otherNearest, decide_eq_decide.mpr signs,
      signedUnits_injective _ same]

end Nearest

end FormEngine.Double
