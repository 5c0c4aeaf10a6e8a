/-!
# Field types, rule kinds and condition operators

The closed vocabularies of form definitions with the words that name them in documents.
-/

namespace FormEngine

/-- The input a field asks for. -/
inductive FieldType where
  | text
  | textarea
  | email
  | number
  | date
  | select
  | radio
  | checkbox
  | file
  | phone
  | url
  | password
  deriving DecidableEq, Repr, Inhabited

namespace FieldType

/-- Every field type, in the order of the palette. -/
def all : List FieldType :=
  [.text, .textarea, .email, .number, .date, .select, .radio, .checkbox, .file, .phone, .url,
    .password]

/-- The word for a field type in documents. -/
def wire : FieldType → String
  | .text => "text"
  | .textarea => "textarea"
  | .email => "email"
  | .number => "number"
  | .date => "date"
  | .select => "select"
  | .radio => "radio"
  | .checkbox => "checkbox"
  | .file => "file"
  | .phone => "phone"
  | .url => "url"
  | .password => "password"

/-- The field type named by a word. -/
def ofWire? (word : String) : Option FieldType :=
  all.find? (·.wire == word)

/-- Whether fields of the type offer a list of options, which must not be empty. -/
def isChoice : FieldType → Bool
  | .select | .radio | .checkbox => true
  | _ => false

end FieldType

/-- The kinds of validation rules. -/
inductive RuleKind where
  | required
  | minLength
  | maxLength
  | emailFormat
  | pattern
  | min
  | max
  deriving DecidableEq, Repr

namespace RuleKind

def all : List RuleKind :=
  [.required, .minLength, .maxLength, .emailFormat, .pattern, .min, .max]

/-- The word for a rule kind in documents. -/
def wire : RuleKind → String
  | .required => "required"
  | .minLength => "minLength"
  | .maxLength => "maxLength"
  | .emailFormat => "emailFormat"
  | .pattern => "pattern"
  | .min => "min"
  | .max => "max"

/-- The rule kind named by a word. Older documents say `email` for the email format. -/
def ofWire? (word : String) : Option RuleKind :=
  if word = "email" then some .emailFormat else all.find? (·.wire == word)

end RuleKind

/-- The comparisons of conditional rules. -/
inductive Operator where
  | equals
  | notEquals
  | contains
  | greaterThan
  | lessThan
  | notEmpty
  | empty
  deriving DecidableEq, Repr

namespace Operator

def all : List Operator :=
  [.equals, .notEquals, .contains, .greaterThan, .lessThan, .notEmpty, .empty]

/-- The word for an operator in documents. -/
def wire : Operator → String
  | .equals => "equals"
  | .notEquals => "not_equals"
  | .contains => "contains"
  | .greaterThan => "greater_than"
  | .lessThan => "less_than"
  | .notEmpty => "not_empty"
  | .empty => "empty"

/-- The operator named by a word. -/
def ofWire? (word : String) : Option Operator :=
  all.find? (·.wire == word)

end Operator

end FormEngine
