import FormEngine.Fault
import FormEngine.Value.Equality
import FormEngine.Value.Spelling

/-!
# Fields

A field asks for one input. Its words, rules and options come from editors and documents that check
little, so most attributes are loosely typed values; what the engine relies on has a type of its
own.
-/

namespace FormEngine

/-- A word of a vocabulary, or whatever stood in its place. -/
inductive Recognised (κ : Type) where
  | known (word : κ)
  | unknown (raw : Value)
  deriving DecidableEq, Repr

/-- One of the choices of a field. -/
structure Choice where
  label : String
  value : String
  deriving DecidableEq, Repr, Inhabited

/-- A constraint on the answer of a field. -/
structure ValidationRule where
  kind : Recognised RuleKind
  /-- A length, a bound or a pattern, as the kind asks. -/
  parameter : Value := .null
  /-- What is said when the rule fails. -/
  message : Value := .str ""
  deriving DecidableEq, Repr

/-- A condition on the answer of another field, the trigger. -/
structure ConditionalRule where
  trigger : Value
  operator : Recognised Operator := .known .equals
  comparison : Value := .null
  deriving DecidableEq, Repr

/-- An entry of a list of rules: a rule, or a value that an editor put there instead. -/
inductive Entry (α : Type) where
  | proper (item : α)
  | stray (value : Value)
  deriving DecidableEq, Repr

/-- All of a field but its identity and place. -/
structure FieldContent where
  type : FieldType
  label : Value
  placeholder : Value := .null
  description : Value := .null
  required : Value := .bool false
  options : List Choice := []
  validationRules : List (Entry ValidationRule) := []
  conditionalRules : List (Entry ConditionalRule) := []
  defaultValue : Value := .null
  deriving DecidableEq, Repr

/-- A field of a form. -/
structure Field extends FieldContent where
  id : String
  /-- The position that the field claims. -/
  order : Value := .int 0
  deriving DecidableEq, Repr

namespace Recognised

/-- The rule kind that a value names. A value that can not be a key can not be looked up. -/
def ruleKind (value : Value) : Except Fault (Recognised RuleKind) :=
  match value.unkeyable? with
  | some part => .error (.notKeyable part.kindName)
  | none =>
    match value.text?.bind RuleKind.ofWire? with
    | some kind => .ok (.known kind)
    | none => .ok (.unknown value)

/-- The operator that a value names. -/
def operator (value : Value) : Recognised Operator :=
  match value.text?.bind Operator.ofWire? with
  | some operator => .known operator
  | none => .unknown value

/-- The value that stands for a rule kind in documents. -/
def kindWire : Recognised RuleKind → Value
  | .known kind => .str kind.wire
  | .unknown raw => raw

/-- The value that stands for an operator in documents. -/
def operatorWire : Recognised Operator → Value
  | .known operator => .str operator.wire
  | .unknown raw => raw

end Recognised

/-- The field type that a value names. -/
def FieldType.ofValue (value : Value) : Except Fault FieldType :=
  match value.text?.bind FieldType.ofWire? with
  | some type => .ok type
  | none => .error (Fault.unknownFieldType value).told

/-- The first field with an id. -/
def fieldWithId? (fields : List Field) (id : String) : Option Field :=
  fields.find? (·.id == id)

namespace Field

/-- Whether the field offers options. -/
def isChoice (field : Field) : Bool :=
  field.type.isChoice

/-- The values of the options, in order. -/
def optionValues (field : Field) : List String :=
  field.options.map (·.value)

/-- The field at another position. -/
def withOrder (field : Field) (position : Nat) : Field :=
  { field with order := .int position }

end Field

/-- The fields numbered by their positions. -/
def renumber (fields : List Field) : List Field :=
  fields.mapIdx fun position field => field.withOrder position

end FormEngine
