import FormEngine.Value.Order
import Mathlib.Algebra.Order.Ring.Int

/-!
# The order of integers

Among values, integers are ordered and told apart as integers are.
-/

namespace FormEngine.Value

/-- Some units make one. -/
theorem unitsPerOne_pos : 0 < (Double.unitsPerOne : Int) := by
  rw [Int.natCast_pos, Double.unitsPerOne]
  generalize (1074 : Nat) = exponent
  exact Nat.two_pow_pos exponent

/-- The amount of an integer. -/
def amount : Value → Int
  | .int amount => amount
  | _ => 0

/-- An integer comes before the larger ones. -/
theorem before_int (left right : Int) :
    (Value.int left).before (.int right) = .ok (decide (left < right)) := by
  have isLess : left * Double.unitsPerOne < right * Double.unitsPerOne ↔ left < right :=
    mul_lt_mul_iff_left₀ unitsPerOne_pos
  simp only [before, before.pointBefore, isNumeric, point?, Point.ofInt, Point.before, if_true, isLess]

/-- An integer has the amount of no other. -/
theorem sameUpTo_int (nanSame : Bool) (left right : Int) :
    (Value.int left).sameUpTo nanSame (.int right) = decide (left = right) := by
  have isOne : Point.ofInt left = Point.ofInt right ↔ left = right := by
    rw [Point.ofInt, Point.ofInt, Point.exact.injEq, Int.mul_eq_mul_right_iff unitsPerOne_pos.ne']
  simp only [sameUpTo, sameUpTo.sameNumber, point?, beq_eq_decide, isOne]

/-- Lists of integers are the same only if they are one list. -/
theorem same_list_int {left right : List Int} :
    (Value.list (left.map .int)).same (.list (right.map .int)) = true ↔ left = right := by
  have items : sameItems false (left.map .int) (right.map .int) = true ↔ left = right := by
    induction left generalizing right with
    | nil => cases right <;> simp [sameItems]
    | cons first rest inductionHypothesis =>
      cases right with
      | nil => simp [sameItems]
      | cons other others => simp [sameItems, sameUpTo_int, inductionHypothesis]
  simpa [same, sameUpTo, Value.list] using items

end FormEngine.Value
