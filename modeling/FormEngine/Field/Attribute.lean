import FormEngine.Template
import FormEngine.Value.Spelling

/-!
# Attributes of fields

Editors create and change fields by lists of attributes. Only the type is checked; options are made
into texts, and everything else is taken as it is given.
-/

namespace FormEngine

/-- What is given for a list: its entries, or some value in its place. -/
inductive Listing (α : Type) where
  | entries (items : List (Entry α))
  | value (value : Value)
  deriving DecidableEq, Repr

/-- A named attribute of a field. -/
inductive Attribute where
  | id (value : Value)
  | order (value : Value)
  | type (value : Value)
  | label (value : Value)
  | placeholder (value : Value)
  | description (value : Value)
  | required (value : Value)
  | options (given : Listing Choice)
  | validationRules (given : Listing ValidationRule)
  | conditionalRules (given : Listing ConditionalRule)
  | defaultValue (value : Value)
  /-- A name that no attribute of a field has. -/
  | unknown (name : String)
  deriving DecidableEq, Repr

namespace Attribute

/-- The name of an attribute. -/
def name : Attribute → String
  | id _ => "id"
  | order _ => "order"
  | type _ => "type"
  | label _ => "label"
  | placeholder _ => "placeholder"
  | description _ => "description"
  | required _ => "required"
  | options _ => "options"
  | validationRules _ => "validation_rules"
  | conditionalRules _ => "conditional_rules"
  | defaultValue _ => "default_value"
  | unknown name => name

/-- Whether no attribute of a field has the name. -/
def isUnknown : Attribute → Bool
  | unknown _ => true
  | _ => false

/-- Whether only the store sets the attribute. -/
def isLocked : Attribute → Bool
  | id _ | order _ => true
  | _ => false

end Attribute

/-- Attributes in the order they are given; of attributes with one name the last counts. -/
abbrev Attributes := List Attribute

namespace Attributes

/-- Names in ascending order, each once. -/
def sortedNames (attributes : Attributes) : List String :=
  ((attributes.map Attribute.name).eraseDups).mergeSort fun left right => left ≤ right

/-- Refuses attributes that no field has. -/
def checkKnown (attributes : Attributes) : Except Fault Unit :=
  let unknown := attributes.filter Attribute.isUnknown
  if unknown.isEmpty then .ok () else .error (.unknownAttributes (sortedNames unknown))

/-- Refuses attributes that only the store sets. -/
def checkUnlocked (attributes : Attributes) : Except Fault Unit :=
  let locked := attributes.filter Attribute.isLocked
  if locked.isEmpty then .ok () else .error (.lockedAttributes (sortedNames locked))

/-- The last answer that a question gets from the attributes. -/
def last? {α : Type} (attributes : Attributes) (ask : Attribute → Option α) : Option α :=
  attributes.reverse.findSome? ask

/-- The type that is given last. -/
def type? (attributes : Attributes) : Option Value :=
  attributes.last? fun
    | .type value => some value
    | _ => none

def label? (attributes : Attributes) : Option Value :=
  attributes.last? fun
    | .label value => some value
    | _ => none

def placeholder? (attributes : Attributes) : Option Value :=
  attributes.last? fun
    | .placeholder value => some value
    | _ => none

def description? (attributes : Attributes) : Option Value :=
  attributes.last? fun
    | .description value => some value
    | _ => none

def required? (attributes : Attributes) : Option Value :=
  attributes.last? fun
    | .required value => some value
    | _ => none

def defaultValue? (attributes : Attributes) : Option Value :=
  attributes.last? fun
    | .defaultValue value => some value
    | _ => none

def options? (attributes : Attributes) : Option (Listing Choice) :=
  attributes.last? fun
    | .options given => some given
    | _ => none

def validationRules? (attributes : Attributes) : Option (Listing ValidationRule) :=
  attributes.last? fun
    | .validationRules given => some given
    | _ => none

def conditionalRules? (attributes : Attributes) : Option (Listing ConditionalRule) :=
  attributes.last? fun
    | .conditionalRules given => some given
    | _ => none

end Attributes

/-- The items of a value: of a collection its items, of text its characters and of a map its
keys. -/
def Value.items? : Value → Option (List Value)
  | .collection _ items => some items
  | .str text => some (text.toList.map fun c => .str (String.singleton c))
  | .map entries => some (entries.map (·.1))
  | _ => none

/-- The entries of a listing. A value that holds nothing gives none, and other values give their
items as strays. -/
def Listing.toEntries {α : Type} : Listing α → Except Fault (List (Entry α))
  | .entries items => .ok items
  | .value given =>
    if !given.truthy then .ok []
    else
      match given.items? with
      | some items => .ok (items.map .stray)
      | none => .error (.notIterable given.kindName)

/-- The option that a value stands for: a map gives its value and label, one for the other where
it lacks one, and anything else gives its text for both. -/
def Choice.ofValue : Value → Except Fault Choice
  | .map entries => do
    let given := ((lookup "value" entries).or (lookup "label" entries)).getD (.str "")
    let value ← given.spell
    let label ← ((lookup "label" entries).getD (.str value)).spell
    return ⟨label, value⟩
  | value => do
    let text ← value.spell
    return ⟨text, text⟩

/-- The option of an entry. -/
def Choice.ofEntry : Entry Choice → Except Fault Choice
  | .proper choice => .ok choice
  | .stray value => Choice.ofValue value

/-- The options that are given. -/
def Listing.toChoices (given : Listing Choice) : Except Fault (List Choice) := do
  (← given.toEntries).mapM Choice.ofEntry

/-- The attributes of a field, for making another one like it. -/
def Field.attributes (field : Field) : Attributes :=
  [.id (.str field.id), .type (.str field.type.wire), .label field.label,
    .placeholder field.placeholder, .description field.description, .required field.required,
    .options (.entries (field.options.map .proper)),
    .validationRules (.entries field.validationRules),
    .conditionalRules (.entries field.conditionalRules), .order field.order,
    .defaultValue field.defaultValue]

/-- The content of a new field of a type: the template of the type with the given attributes in
place. Another type may be given among the attributes; options follow the final type, which gets
the default ones if it asks for options and none are given. -/
def FieldContent.create (type : Value) (attributes : Attributes) : Except Fault FieldContent := do
  let template := FieldContent.template (← FieldType.ofValue type)
  let finalType ← match attributes.type? with
    | none => pure template.type
    | some value => FieldType.ofValue value
  let options ← match attributes.options? with
    | none => pure template.options
    | some given => given.toChoices
  let validationRules ← match attributes.validationRules? with
    | none => pure template.validationRules
    | some given => given.toEntries
  let conditionalRules ← match attributes.conditionalRules? with
    | none => pure template.conditionalRules
    | some given => given.toEntries
  return {
    type := finalType
    label := attributes.label?.getD template.label
    placeholder := attributes.placeholder?.getD template.placeholder
    description := attributes.description?.getD template.description
    required := attributes.required?.getD template.required
    options :=
      if !finalType.isChoice then []
      else if options.isEmpty then defaultOptions
      else options
    validationRules
    conditionalRules
    defaultValue := attributes.defaultValue?.getD template.defaultValue }

/-- The content with the given attributes in place of its own. A field that offers options must
keep one, and a field that offers none loses them. -/
def FieldContent.change (content : FieldContent) (attributes : Attributes) :
    Except Fault FieldContent := do
  let type ← match attributes.type? with
    | none => pure content.type
    | some value => FieldType.ofValue value
  let options ← match attributes.options? with
    | none => pure content.options
    | some given => given.toChoices
  if type.isChoice && options.isEmpty then throw (.choiceWithoutOptions type)
  else
    let validationRules ← match attributes.validationRules? with
      | none => pure content.validationRules
      | some given => given.toEntries
    let conditionalRules ← match attributes.conditionalRules? with
      | none => pure content.conditionalRules
      | some given => given.toEntries
    return {
      type
      label := attributes.label?.getD content.label
      placeholder := attributes.placeholder?.getD content.placeholder
      description := attributes.description?.getD content.description
      required := attributes.required?.getD content.required
      options := if type.isChoice then options else []
      validationRules
      conditionalRules
      defaultValue := attributes.defaultValue?.getD content.defaultValue }

end FormEngine
