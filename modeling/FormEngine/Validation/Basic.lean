import FormEngine.Answer
import FormEngine.Notice
import FormEngine.Pattern.Reader
import FormEngine.Validation.Address
import FormEngine.Value.Spelling
import FormEngine.WebAddress

/-!
# Validation

A field is compiled into a validator, which gives the message of the first check that an answer
fails: whether an answer that is there fits the type of the field, whether a required answer is
there, and then the rules of the field in order. An empty answer is held against nothing but
requirements. A rule that can not be applied, such as a pattern that is none, is left out.
-/

namespace FormEngine

/-- What becomes of the parameter of a pattern rule. -/
inductive PatternStatus where
  /-- There is no pattern to match. -/
  | absent
  | valid (node : Pattern.Node)
  /-- The parameter is no pattern. -/
  | invalid
  | refused (fault : Fault)

/-- Reads the parameter of a pattern rule. -/
def patternStatus (parameter : Value) : PatternStatus :=
  if parameter = .null ∨ parameter = .str "" then .absent
  else
    match parameter.spell with
    | .error fault => .refused fault
    | .ok text =>
      match Pattern.compile text with
      | .ok node => .valid node
      | .error .malformed => .invalid
      | .error .repetitionTooLarge => .refused .repetitionTooLarge
      | .error (.countTooLong digits) => .refused (.integerTooLong digits)
      | .error .modesIncompatible => .refused .patternModes

/-- A test that an answer passes or fails. -/
abbrev Check := Value → Except Fault Bool

/-- The verdict on an answer: a message if it is rejected. -/
abbrev Verdict := Option Value

/-- The kind of a validation rule; a stray value has none. -/
def Entry.ruleOf : Entry ValidationRule → Except Fault ValidationRule
  | .proper rule => .ok rule
  | .stray value => .error (.missingPart value.kindName "kind")

/-- The test of a length rule, if its parameter is a number. -/
def lengthCheck (atLeast : Bool) (parameter : Value) : Except Fault (Option Check) := do
  match ← parameter.number? with
  | none => return none
  | some bound =>
    match Point.ofDouble? bound with
    | none => return none
    | some limit =>
      return some fun answer => do
        let length := Point.ofInt (← answer.answerLength)
        return if atLeast then !length.before limit else !limit.before length

/-- The test of a bound, if the field asks for numbers and the parameter is one. An answer that is
no number passes. -/
def boundCheck (atLeast : Bool) (type : FieldType) (parameter : Value) :
    Except Fault (Option Check) := do
  if type ≠ .number then return none
  else
    match ← parameter.number? with
    | none => return none
    | some bound =>
      return some fun answer => do
        match ← answer.number? with
        | none => return true
        | some number => return if atLeast then bound.atMost number else number.atMost bound

/-- The test of a pattern rule: every item has a match somewhere. -/
def patternCheck (parameter : Value) : Except Fault (Option Check) :=
  match patternStatus parameter with
  | .absent | .invalid => .ok none
  | .refused fault => .error fault
  | .valid node => .ok (some fun answer => Value.everyText node.search answer.answerItems)

/-- The test of a rule on a field of a type, or nothing if the rule can not be applied. -/
def ruleCheck (type : FieldType) (rule : ValidationRule) : Except Fault (Option Check) :=
  match rule.kind with
  | .known .required => .ok (some fun answer => .ok (!answer.isEmptyAnswer (some type)))
  | .known .minLength => lengthCheck true rule.parameter
  | .known .maxLength => lengthCheck false rule.parameter
  | .known .emailFormat =>
    .ok (some fun answer => Value.everyText isEmailAddress answer.answerItems)
  | .known .pattern => patternCheck rule.parameter
  | .known .min => boundCheck true type rule.parameter
  | .known .max => boundCheck false type rule.parameter
  | .unknown _ => .ok none

/-- A rule with its test. -/
structure CompiledRule where
  rule : ValidationRule
  check : Check

/-- The applicable rules with their tests, in order. -/
def compileRules (type : FieldType) : List (Entry ValidationRule) → Except Fault (List CompiledRule)
  | [] => .ok []
  | entry :: rest => do
    let rule ← entry.ruleOf
    let check ← ruleCheck type rule
    let compiled ← compileRules type rest
    return match check with
      | some check => ⟨rule, check⟩ :: compiled
      | none => compiled

/-- The message that a label and an ending make. A label without a text makes none. -/
def labelled (label : Value) (ending : String) : Except Fault Value := do
  return .str ((← label.spell) ++ " " ++ ending)

/-- The verdict of a test, which names the label if the test is failed. -/
def testVerdict (label : Value) (ending : String) (passes : Bool) : Except Fault Verdict := do
  if passes then return none else return some (← labelled label ending)

/-- The verdict on an answer by the type of its field. -/
def typeVerdict (type : FieldType) (label answer : Value) : Except Fault Verdict := do
  match type with
  | .number => testVerdict label "must be a number" (← answer.number?).isSome
  | .date => testVerdict label "must be a valid date" answer.date?.isSome
  | .email => testVerdict label "must be a valid email address" (isEmailAddress (← answer.spell))
  | .phone => testVerdict label "must be a valid phone number" (isPhoneNumber (← answer.spell))
  | .url =>
    let text ← answer.spell
    testVerdict label "must be a valid URL" (← WebAddress.isValid (Text.trimList text.toList))
  | _ => return none

/-- What is said of an answer that breaks a rule. -/
def ValidationRule.rejection (rule : ValidationRule) (label : Value) : Except Fault Value :=
  if rule.message.truthy then .ok rule.message else labelled label "is invalid"

/-- The verdict of the rules in order. An empty answer meets only requirements. -/
def rulesVerdict (label answer : Value) (empty : Bool) : List CompiledRule → Except Fault Verdict
  | [] => .ok none
  | compiled :: rest => do
    if empty && compiled.rule.kind != .known .required then rulesVerdict label answer empty rest
    else if ← compiled.check answer then rulesVerdict label answer empty rest
    else return some (← compiled.rule.rejection label)

/-- The verdict on an answer to a field whose rules are compiled. -/
def FieldContent.verdict (content : FieldContent) (rules : List CompiledRule) (answer : Value) :
    Except Fault Verdict := do
  let empty := answer.isEmptyAnswer (some content.type)
  if empty && content.required.truthy then return some (← labelled content.label "is required")
  else
    let mismatch ← if empty then pure none else typeVerdict content.type content.label answer
    match mismatch with
    | some message => return some message
    | none => rulesVerdict content.label answer empty rules

/-- What a field is compiled into. -/
abbrev Validator := Value → Except Fault Verdict

/-- The validator of a field. -/
def FieldContent.validator (content : FieldContent) : Except Fault Validator := do
  let rules ← compileRules content.type content.validationRules
  return content.verdict rules

/-- What compiling rules reports: the patterns that are none, up to the first rule that can not be
compiled at all. -/
def ruleNotices (type : FieldType) (fieldId : String) : List (Entry ValidationRule) → List Notice
  | [] => []
  | .stray _ :: _ => []
  | .proper rule :: rest =>
    match ruleCheck type rule with
    | .error _ => []
    | .ok _ =>
      match rule.kind, patternStatus rule.parameter with
      | .known .pattern, .invalid =>
        .invalidPattern rule.parameter fieldId :: ruleNotices type fieldId rest
      | _, _ => ruleNotices type fieldId rest

/-- What compiling a field reports. -/
def Field.notices (field : Field) : List Notice :=
  ruleNotices field.type field.id field.validationRules

/-- The verdict of a field on an answer. -/
def Field.validate (field : Field) (answer : Value) : Except Fault Verdict := do
  let validator ← field.validator
  validator answer

/-- The message of a verdict that is to be shown. -/
def shownMessage (verdict : Verdict) : Option Value :=
  verdict.filter Value.truthy

/-- Enters the message of a field, if there is one to be shown. -/
def enterVerdict (errors : Table Value) (id : String) (verdict : Verdict) : Table Value :=
  match shownMessage verdict with
  | some message => errors.insert id message
  | none => errors

/-- Enters the messages of fields into a table, field by field. -/
def enterVerdicts (answers : Answers) (errors : Table Value) :
    List Field → Except Fault (Table Value)
  | [] => .ok errors
  | field :: rest => do
    let verdict ← field.validate ((answers.get? field.id).getD .null)
    enterVerdicts answers (enterVerdict errors field.id verdict) rest

/-- The messages of all fields, visible or not. -/
def validateFields (fields : List Field) (answers : Answers) : Except Fault (Table Value) :=
  enterVerdicts answers {} fields

/-- The phrases of messages that do not say which field they are about. -/
def genericPhrases : List String := ["is required", "must be", "should be"]

/-- Whether a text occurs in another. -/
def occursIn (part : List Char) : List Char → Bool
  | [] => part.isEmpty
  | c :: rest => part.isPrefixOf (c :: rest) || occursIn part rest

/-- Puts the label in front of a generic message that does not name it. A label that is no text
can not be looked for. -/
def nameField (label : Value) (error : String) : Except Fault Value :=
  let lowered := (Text.lowerCase error).toList
  let generic := genericPhrases.any fun phrase => occursIn phrase.toList lowered
  match label with
  | .str text =>
    let name := (Text.lowerCase text).toList
    if text != "" && name.isPrefixOf lowered then .ok (.str error)
    else if generic && !occursIn name lowered then
      .ok (.str (text ++ " " ++ String.ofList lowered))
    else .ok (.str error)
  | label =>
    if label.truthy || generic then .error (.missingPart label.kindName "lower")
    else .ok (.str error)

/-- Puts the label in front of what should be a message. -/
def nameFieldIn (label error : Value) : Except Fault Value :=
  match error with
  | .str text => nameField label text
  | other => .error (.missingPart other.kindName "lower")

end FormEngine
