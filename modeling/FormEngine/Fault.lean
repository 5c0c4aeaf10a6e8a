import FormEngine.Field.Kind
import FormEngine.Value.Text

/-!
# Faults

Everything that can go wrong, by cause. `Fault.category` sorts the causes for callers that treat
them alike, and `Fault.message` is the one place that words them.
-/

namespace FormEngine

/-- What a caller may want to tell apart. -/
inductive FaultCategory where
  /-- A reference to a field that is not there. -/
  | unknownField
  /-- An argument of an operation that it refuses. -/
  | invalidArgument
  /-- A document that is no schema. -/
  | schemaImport
  /-- A failure of the engine's surroundings. -/
  | engine
  /-- A value of the right kind that can not be used. -/
  | badValue
  /-- A value of the wrong kind. -/
  | badKind
  /-- A value that lacks a part that is asked for. -/
  | missingPart
  /-- A number out of range. -/
  | overflow
  /-- A word that is looked up where it has no meaning. -/
  | missingKey
  /-- A place behind the end of a text. -/
  | missingPlace
  deriving DecidableEq, Repr

/-- The ends of a move in a list. -/
inductive MoveEnd where
  | source
  | target
  deriving DecidableEq, Repr

/-- The parts of a date or time that a calendar may lack. -/
inductive CalendarPart where
  | year (year : Nat)
  | month
  | day
  | hour
  | minute
  | second
  | offset (text : String)
  deriving DecidableEq, Repr

/-- The causes of failure. -/
inductive Fault where
  /-- No field has the id. -/
  | unknownField (id : Value)
  | unknownFieldType (word : Value)
  /-- Attributes that no field has. -/
  | unknownAttributes (names : List String)
  /-- Attributes that only the store sets. -/
  | lockedAttributes (names : List String)
  | choiceWithoutOptions (type : FieldType)
  | indexOutOfRange (moveEnd : MoveEnd) (index : Value) (size : Nat)
  | duplicateId (id : String)
  /-- The source of ids keeps returning ids in use. -/
  | idsExhausted
  | documentNotObject
  | documentWithoutFields
  | fieldsNotArray
  | settingsNotObject
  | invalidTimestamp (value : Value)
  | fieldNotObject (entry : Value)
  | fieldWithoutType (id : Value)
  | optionWithoutText (entry : Value)
  | ruleWithoutKind (entry : Value)
  | ruleWithoutTrigger (entry : Value)
  /-- A field of a document could not be built. -/
  | fieldNotBuilt (index : Nat) (cause : Fault)
  | importedDuplicateId (id : String)
  | importedChoiceWithoutOptions (id : String) (type : FieldType)
  | invalidJson
  | invalidYaml
  | unsupportedFormat (format : Value)
  /-- The host of an address opens a bracket and does not close it, or the reverse. -/
  | addressBrackets
  /-- The compatibility form of a host would be split elsewhere. -/
  | addressCompatibility (host : String)
  /-- A host in brackets that is no address. -/
  | addressHost (host : String)
  /-- A host in brackets that is an address of version 4. -/
  | addressVersion4
  /-- A host in brackets that is no address of a future version. -/
  | addressFuture
  | notAnInteger (base : Nat) (text : String)
  | integerTooLong (digits : Nat)
  /-- An integer of too many digits to be written. -/
  | integerUnwritten
  | notADecimal (text : String)
  /-- A word that is no truth value. -/
  | notATruthValue (word : String)
  /-- A number without any character. -/
  | emptyNumber
  /-- An escape asks for a character beyond the last one. -/
  | noSuchCharacter (code : Nat)
  | nanToInteger
  | infinityToInteger
  | integerToFloat
  /-- A pattern with a huge repetition count. -/
  | repetitionTooLarge
  /-- A pattern that asks for ASCII and for all scripts. -/
  | patternModes
  | notInCalendar (part : CalendarPart)
  | notIterable (kind : String)
  | notKeyable (kind : String)
  | notIntegerLike (kind : String)
  /-- A list of nodes where the text of a timestamp is asked for. -/
  | notSearchable
  | notOrdered (left right : String)
  | dateWithTime
  | localWithOffset
  | notText (position : Nat) (kind : String)
  | notWritable (kind : String)
  | keyNotWritable (kind : String)
  | missingPart (kind part : String)
  deriving Repr

/-- The first code of a character that is too large to be looked up at all. -/
def characterCodeLimit : Nat := 0x80000000

namespace Fault

/-- The category of a cause. -/
def category : Fault → FaultCategory
  | unknownField _ => .unknownField
  | unknownFieldType _ | unknownAttributes _ | lockedAttributes _ | choiceWithoutOptions _
  | indexOutOfRange .. | duplicateId _ => .invalidArgument
  | idsExhausted => .engine
  | documentNotObject | documentWithoutFields | fieldsNotArray | settingsNotObject
  | invalidTimestamp _ | fieldNotObject _ | fieldWithoutType _ | optionWithoutText _
  | ruleWithoutKind _ | ruleWithoutTrigger _ | fieldNotBuilt .. | importedDuplicateId _
  | importedChoiceWithoutOptions .. | invalidJson | invalidYaml => .schemaImport
  | unsupportedFormat _ | addressBrackets | addressCompatibility _ | addressHost _
  | addressVersion4 | addressFuture | notAnInteger .. | integerTooLong _ | integerUnwritten
  | notADecimal _ | nanToInteger | patternModes | notInCalendar _ => .badValue
  | noSuchCharacter code => if code < characterCodeLimit then .badValue else .overflow
  | infinityToInteger | integerToFloat | repetitionTooLarge => .overflow
  | notIterable _ | notKeyable _ | notIntegerLike _ | notSearchable | notOrdered .. | dateWithTime
  | localWithOffset | notText .. | notWritable _ | keyNotWritable _ => .badKind
  | missingPart .. => .missingPart
  | notATruthValue _ => .missingKey
  | emptyNumber => .missingPlace

end Fault

def MoveEnd.name : MoveEnd → String
  | .source => "from_index"
  | .target => "to_index"

def CalendarPart.message : CalendarPart → String
  | year number => s!"year {number} is out of range"
  | month => "month must be in 1..12"
  | day => "day is out of range for month"
  | hour => "hour must be in 0..23"
  | minute => "minute must be in 0..59"
  | second => "second must be in 0..59"
  | offset text => "offset must be a timedelta strictly between -timedelta(hours=24) and " ++
    s!"timedelta(hours=24), not {text}."

namespace Fault

open FormEngine.Text (quoted)

/-- The longest quotation of a text that is no integer. -/
def quotationLimit : Nat := 200

/-- What a failure says. -/
def message : Fault → String
  | unknownField id => "Unknown field id: " ++ id.display
  | unknownFieldType word => "Unknown field type: " ++ word.display
  | unknownAttributes names => "Unknown field attributes: " ++ ", ".intercalate names
  | lockedAttributes names => "Cannot update " ++ ", ".intercalate names ++ " of a field"
  | choiceWithoutOptions type => "A " ++ type.wire ++ " field needs at least one option"
  | indexOutOfRange moveEnd index size =>
    moveEnd.name ++ " " ++ index.display ++ " out of range for " ++ intText size ++ " field(s)"
  | duplicateId id | importedDuplicateId id => "Duplicate field id: " ++ quoted id
  | idsExhausted => "Id factory keeps returning ids already in use"
  | documentNotObject => "Schema document must be an object"
  | documentWithoutFields => "Schema document has no 'fields' array"
  | fieldsNotArray => "'fields' must be an array"
  | settingsNotObject => "'settings' must be an object"
  | invalidTimestamp value => "Invalid timestamp: " ++ value.display
  | fieldNotObject entry => "Field entry is not an object: " ++ entry.display
  | fieldWithoutType id => "Field " ++ id.display ++ " has no type"
  | optionWithoutText entry => "Option without label or value: " ++ entry.display
  | ruleWithoutKind entry => "Validation rule without kind: " ++ entry.display
  | ruleWithoutTrigger entry => "Conditional rule without triggerFieldId: " ++ entry.display
  | fieldNotBuilt index cause => "Error importing field " ++ intText index ++ ": " ++ cause.message
  | importedChoiceWithoutOptions id type =>
    "Field " ++ quoted id ++ " of type " ++ type.wire ++ " has no options"
  | invalidJson => "Invalid JSON"
  | invalidYaml => "Invalid YAML"
  | unsupportedFormat format =>
    "Unsupported schema format: " ++ format.display ++ " (expected one of ('json', 'yaml'))"
  | addressBrackets => "Invalid IPv6 URL"
  | addressCompatibility host =>
    "netloc '" ++ host ++ "' contains invalid characters under NFKC normalization"
  | addressHost host => quoted host ++ " does not appear to be an IPv4 or IPv6 address"
  | addressVersion4 => "An IPv4 address cannot be in brackets"
  | addressFuture => "IPvFuture address is invalid"
  | notAnInteger base text => "invalid literal for int() with base " ++ intText base ++ ": " ++
    String.ofList ((quoted text).toList.take quotationLimit)
  | integerTooLong digits => "Exceeds the limit (4300 digits) for integer string conversion: " ++
    "value has " ++ intText digits ++ " digits; " ++
    "use sys.set_int_max_str_digits() to increase the limit"
  | integerUnwritten => "Exceeds the limit (4300 digits) for integer string conversion; " ++
    "use sys.set_int_max_str_digits() to increase the limit"
  | notADecimal text => "could not convert string to float: " ++ quoted text
  | notATruthValue word => quoted word
  | emptyNumber => "string index out of range"
  | noSuchCharacter code =>
    if code < characterCodeLimit then "chr() arg not in range(0x110000)"
    else "Python int too large to convert to C int"
  | nanToInteger => "cannot convert float NaN to integer"
  | infinityToInteger => "cannot convert float infinity to integer"
  | integerToFloat => "int too large to convert to float"
  | repetitionTooLarge => "the repetition number is too large"
  | patternModes => "ASCII and UNICODE flags are incompatible"
  | notInCalendar part => part.message
  | notIterable kind => "'" ++ kind ++ "' object is not iterable"
  | notKeyable kind => "unhashable type: '" ++ kind ++ "'"
  | notIntegerLike kind =>
    "int() argument must be a string, a bytes-like object or a real number, not '" ++ kind ++ "'"
  | notSearchable => "expected string or bytes-like object, got 'list'"
  | notOrdered left right =>
    "'<' not supported between instances of '" ++ left ++ "' and '" ++ right ++ "'"
  | dateWithTime => "can't compare datetime.datetime to datetime.date"
  | localWithOffset => "can't compare offset-naive and offset-aware datetimes"
  | notText position kind =>
    "sequence item " ++ intText position ++ ": expected str instance, " ++ kind ++ " found"
  | notWritable kind => "Object of type " ++ kind ++ " is not JSON serializable"
  | keyNotWritable kind => "keys must be str, int, float, bool or None, not " ++ kind
  | missingPart kind part => "'" ++ kind ++ "' object has no attribute '" ++ part ++ "'"

end Fault

end FormEngine
