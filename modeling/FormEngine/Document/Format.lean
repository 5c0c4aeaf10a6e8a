import FormEngine.Document.Reading
import FormEngine.Document.Writing
import FormEngine.Json.Reading
import FormEngine.Json.Writing

/-!
# Formats of documents

Documents travel as text, in JSON or in YAML. For YAML the engine relies on a library that it is
given, as it is given ids and times.
-/

namespace FormEngine

/-- How a library for YAML fails to read. -/
inductive YamlFailure where
  /-- The text is no YAML. -/
  | malformed
  /-- The library fails with a fault of its own. -/
  | own (fault : Fault)
  deriving Repr

/-- A library for YAML. Of its reader we are told what becomes of texts that stand for values here;
texts that stand for bytes, or for a value that holds itself, are beyond it. -/
structure YamlLibrary where
  /-- Reads what is handed over as a text. -/
  read : Value → Except YamlFailure Value
  /-- The text of a document in which every integer can be written. -/
  write : Entries → String

/-- The formats of documents. -/
inductive Format where
  | json
  | yaml
  deriving DecidableEq, Repr

namespace Format

/-- The format that a value names. -/
def ofValue (value : Value) : Except Fault Format :=
  match value with
  | .str "json" => .ok .json
  | .str "yaml" => .ok .yaml
  | other => .error (Fault.unsupportedFormat other).told

/-- Reads a text. What is no text is no JSON, but it is left to the library whether it is YAML, and
only that it is none is reported as a fault of documents. -/
def read (format : Format) (yaml : YamlLibrary) (text : Value) : Except Fault Value :=
  match format, text with
  | .json, .str text =>
    match Json.read text with
    | some document => .ok document
    | none => .error .invalidJson
  | .json, _ => .error .invalidJson
  | .yaml, text =>
    match yaml.read text with
    | .ok document => .ok document
    | .error .malformed => .error .invalidYaml
    | .error (.own fault) => .error fault

/-- What reading a text reports. -/
def readNotices (format : Format) (yaml : YamlLibrary) (text : Value) : List Notice :=
  match format.read yaml text with
  | .error .invalidJson | .error .invalidYaml => [.rejectedDocument]
  | _ => []

/-- Writes a document. -/
def write (format : Format) (yaml : YamlLibrary) (document : Value) : Except Fault String :=
  match format, document with
  | .json, _ => Json.write document
  | .yaml, .map entries =>
    if (Value.map entries).hasOverlong then .error .integerUnwritten else .ok (yaml.write entries)
  | .yaml, _ => .error .documentNotObject

end Format

/-- The text of a form. -/
def Form.write (form : Form) (format : Format) (yaml : YamlLibrary) : Except Fault String := do
  format.write yaml (← form.toDocument)

/-- Reads a form from a text. -/
def importForm (format : Format) (yaml : YamlLibrary) (strict : Bool) (supply : Supply)
    (text : Value) : Reading Form :=
  match format.read yaml text with
  | .ok document => readForm strict supply document
  | .error fault => { result := .error fault, supply }

end FormEngine
