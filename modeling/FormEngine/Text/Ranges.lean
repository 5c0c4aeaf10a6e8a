/-!
# Ranges of characters

Character properties are tables of code point ranges. Membership bisects the table, so the ranges
of a table ascend and do not overlap.
-/

namespace FormEngine.Text

/-- Inclusive ranges of code points, ascending. -/
abbrev Ranges := Array (Nat × Nat)

namespace Ranges

/-- Whether one of the ranges `low, …, high - 1` of the table holds the code point. -/
def bisect (ranges : Ranges) (code low high : Nat) : Bool :=
  if low < high then
    let middle := (low + high) / 2
    match ranges[middle]? with
    | none => false
    | some (first, last) =>
      if code < first then bisect ranges code low middle
      else if last < code then bisect ranges code (middle + 1) high
      else true
  else false
termination_by high - low

/-- Whether a range of the table holds the character. -/
def contains (ranges : Ranges) (c : Char) : Bool :=
  ranges.bisect c.toNat 0 ranges.size

end Ranges

end FormEngine.Text
