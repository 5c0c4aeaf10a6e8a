import FormEngine.Yaml.Node.Reading
import FormEngine.Yaml.Node.Value
import FormEngine.Yaml.Token.Lexer

/-!
# Reading YAML

A YAML text is cut into tokens, the tokens make nodes, and a node stands for a value. A text
without a document stands for nothing.
-/

namespace FormEngine.Yaml

/-- Reads a text that holds one document. -/
def read (text : String) : Except Fault Value := do
  match ← TokenReader.document (scan text) with
  | none => return .null
  | some root => rootValue root

end FormEngine.Yaml
