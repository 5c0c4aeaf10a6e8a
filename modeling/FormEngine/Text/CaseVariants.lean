import FormEngine.Text.Case

/-!
# Case variants

Two characters match without regard to case when they have the same small letter, or small letters
with the same capital, such as the two forms of the small sigma.
-/

namespace FormEngine.Text

/-- The sets of small letters that share a capital, after Unicode 14.0. -/
def sharedCapitals : List (List Nat) := [
  [0x69, 0x131], [0x73, 0x17f], [0xb5, 0x3bc], [0x345, 0x3b9, 0x1fbe], [0x390, 0x1fd3],
  [0x3b0, 0x1fe3], [0x3b2, 0x3d0], [0x3b5, 0x3f5], [0x3b8, 0x3d1], [0x3ba, 0x3f0],
  [0x3c0, 0x3d6], [0x3c1, 0x3f1], [0x3c2, 0x3c3], [0x3c6, 0x3d5], [0x432, 0x1c80],
  [0x434, 0x1c81], [0x43e, 0x1c82], [0x441, 0x1c83], [0x442, 0x1c84, 0x1c85], [0x44a, 0x1c86],
  [0x463, 0x1c87], [0x1c88, 0xa64b], [0x1e61, 0x1e9b], [0xfb05, 0xfb06]]

/-- The small letters that count as the same letter as a given one, that one first. -/
def alikeSmall (small : Char) : List Char :=
  match sharedCapitals.find? (·.contains small.toNat) with
  | some shared => small :: (shared.filter (· != small.toNat)).map Char.ofNat
  | none => [small]

/-- Every character that matches a given one without regard to case. -/
def caseVariants (c : Char) : List Char :=
  (alikeSmall (lowerChar c)).flatMap withLowerCase

/-- Every character that matches a given one when only ASCII letters have a case. -/
def asciiCaseVariants (c : Char) : List Char :=
  if c.toLower == c.toUpper then [c] else [c.toLower, c.toUpper]

end FormEngine.Text
