import FormEngine.Fault

/-!
# YAML tokens

A lexer makes a text into tokens. Indentation has become tokens too, and so have the keys of
maps that the text marks by a colon only.
-/

namespace FormEngine.Yaml

/-- A tag as it is written: a handle with a suffix, or the whole tag. -/
structure WrittenTag where
  handle : Option String
  suffix : String
  deriving DecidableEq, Repr

/-- A token of a YAML text. -/
inductive Token where
  | version (major : Nat)
  | tagHandle (handle expansion : String)
  | otherDirective
  | documentStart
  | documentEnd
  | blockSequenceStart
  | blockMappingStart
  | blockEnd
  | flowSequenceStart
  | flowSequenceEnd
  | flowMappingStart
  | flowMappingEnd
  | blockEntry
  | flowEntry
  | key
  | value
  | alias (name : String)
  | anchor (name : String)
  | tag (written : WrittenTag)
  | scalar (text : String) (plain : Bool)
  deriving DecidableEq, Repr

/-- The tokens of a text up to its end, or up to a fault that shows only to who asks for more. -/
structure TokenStream where
  tokens : List Token
  ending : Option Fault := none

end FormEngine.Yaml
