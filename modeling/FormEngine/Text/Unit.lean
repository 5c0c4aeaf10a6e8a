/-!
# Units of sixteen bits

Escapes write a character beyond sixteen bits as two units, its halves. A half by itself is no
character, and the replacement character stands for it.
-/

namespace FormEngine.Text

/-- The first half of a character beyond sixteen bits. -/
def isHighHalf (code : Nat) : Bool :=
  0xd800 ≤ code && code < 0xdc00

/-- The second half of a character beyond sixteen bits. -/
def isLowHalf (code : Nat) : Bool :=
  0xdc00 ≤ code && code < 0xe000

/-- The character of two halves. -/
def joinHalves (high low : Nat) : Char :=
  Char.ofNat (0x10000 + (high - 0xd800) * 0x400 + (low - 0xdc00))

/-- The halves of a character beyond sixteen bits. -/
def halves (c : Char) : Nat × Nat :=
  let offset := c.toNat - 0x10000
  (0xd800 + offset / 0x400, 0xdc00 + offset % 0x400)

/-- Stands for a half without its other half. -/
def replacementChar : Char := '\ufffd'

/-- The character with a code, if it is not a half. -/
def charOfCode (code : Nat) : Char :=
  if isHighHalf code || isLowHalf code then replacementChar else Char.ofNat code

end FormEngine.Text
