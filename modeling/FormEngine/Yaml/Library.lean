import FormEngine.Document.Format
import FormEngine.Yaml.Reading
import FormEngine.Yaml.Writing

/-!
# The library for YAML that comes with the engine

The reader knows the documents that stand for values: those with bytes, and those that hold
themselves, are refused as no YAML.
-/

namespace FormEngine.Yaml

/-- The failure that a fault of a text is. -/
def failureOf : Fault → YamlFailure
  | .invalidYaml => .malformed
  | fault => .own fault

/-- Reads what is handed over as a text. What is none is asked for its text in vain. -/
def load : Value → Except YamlFailure Value
  | .str text => (read text).mapError failureOf
  | value => .error (.own (.missingPart value.kindName "read"))

/-- The library for YAML that comes with the engine. -/
def library : YamlLibrary where
  read := load
  write := write

end FormEngine.Yaml
