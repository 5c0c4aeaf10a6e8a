/-!
# Compatibility forms of address delimiters

Some characters stand for a text that holds one of the delimiters of a web address, such as the
fraction `a/c` in one character. After compatibility normalisation (Unicode 14.0, form KC) an
address with such a character would be split elsewhere.
-/

namespace FormEngine.Text

/-- The characters whose compatibility form holds `/`, `?`, `#`, `@` or `:`. -/
def delimiterForms : List Nat := [
  0x2047, 0x2048, 0x2049, 0x2100, 0x2101, 0x2105, 0x2106, 0x2a74, 0xfe13, 0xfe16, 0xfe55,
  0xfe56, 0xfe5f, 0xfe6b, 0xff03, 0xff0f, 0xff1a, 0xff1f, 0xff20]

/-- Whether the compatibility form of a character holds an address delimiter. -/
def hidesDelimiter (c : Char) : Bool :=
  delimiterForms.contains c.toNat

end FormEngine.Text
