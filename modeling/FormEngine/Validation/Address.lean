import FormEngine.Pattern.Matcher

/-!
# Email addresses and phone numbers

Two fixed patterns. An email address has exactly one at sign with text before it and, behind it,
text with a point inside. A phone number is an optional plus, a digit from 1 to 9 and at most
fifteen further digits.
-/

namespace FormEngine

open FormEngine.Pattern

namespace Pattern

/-- The test for one given character. -/
def CharSet.only (c : Char) : CharSet :=
  ⟨false, [.range c.toNat c.toNat], .exact⟩

/-- One given character. -/
def Node.just (c : Char) : Node :=
  .char (.only c)

/-- The patterns in a row. -/
def Node.row : List Node → Node
  | [] => .empty
  | node :: rest => .seq node (row rest)

end Pattern

/-- Any character but blanks and the at sign. -/
def emailChar : CharSet :=
  ⟨true, [.named .blank false false, .range '@'.toNat '@'.toNat], .exact⟩

/-- At least one email character. -/
def emailPart : Node :=
  .repeated .greedy 1 none (.char emailChar)

/-- The shape of an email address. -/
def emailPattern : Node :=
  .row [.anchor .textStart, emailPart, .just '@', emailPart, .just '.', emailPart,
    .anchor .lastLineEnd]

/-- A digit from 1 to 9. -/
def leadingDigit : CharSet :=
  ⟨false, [.range '1'.toNat '9'.toNat], .exact⟩

/-- A decimal digit of any script. -/
def anyDigit : CharSet :=
  ⟨false, [.named .digit false false], .exact⟩

/-- The shape of a phone number without separators. -/
def phonePattern : Node :=
  .row [.anchor .textStart, .repeated .greedy 0 (some 1) (.just '+'), .char leadingDigit,
    .repeated .greedy 0 (some 15) (.char anyDigit), .anchor .lastLineEnd]

/-- A character that phone numbers may hold anywhere. -/
def isPhoneSeparator (c : Char) : Bool :=
  Text.isBlank c || c == '-' || c == '(' || c == ')' || c == '.'

/-- Whether a text is an email address. -/
def isEmailAddress (text : String) : Bool :=
  emailPattern.matchesStart (Text.trim text)

/-- Whether a text is a phone number. -/
def isPhoneNumber (text : String) : Bool :=
  phonePattern.matchesStart (String.ofList (text.toList.filter (!isPhoneSeparator ·)))

end FormEngine
