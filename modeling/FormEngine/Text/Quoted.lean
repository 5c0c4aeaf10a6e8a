import FormEngine.Text.Printable

/-!
# Quoted text

Text inside messages stands in quotes. Single quotes are preferred; text with a single quote and
no double quote gets double ones. Backslashes, the quote in use and everything without a visible
form are escaped.
-/

namespace FormEngine.Text

/-- Hexadecimal digits of a number, with leading zeros up to `width`. -/
def hexDigits (width value : Nat) : List Char :=
  let digits := Nat.toDigits 16 value
  List.replicate (width - digits.length) '0' ++ digits

/-- The quote that text is put in. -/
def chooseQuote (text : List Char) : Char :=
  if text.contains '\'' && !text.contains '"' then '"' else '\''

/-- One character inside quotes. -/
def quoteChar (quote : Char) (c : Char) : List Char :=
  if c == quote || c == '\\' then ['\\', c]
  else if c == '\n' then ['\\', 'n']
  else if c == '\r' then ['\\', 'r']
  else if c == '\t' then ['\\', 't']
  else if isPrintable c then [c]
  else if c.toNat < 0x100 then '\\' :: 'x' :: hexDigits 2 c.toNat
  else if c.toNat < 0x10000 then '\\' :: 'u' :: hexDigits 4 c.toNat
  else '\\' :: 'U' :: hexDigits 8 c.toNat

/-- Text in quotes. -/
def quoted (text : String) : String :=
  let characters := text.toList
  let quote := chooseQuote characters
  String.ofList (quote :: characters.flatMap (quoteChar quote) ++ [quote])

end FormEngine.Text
