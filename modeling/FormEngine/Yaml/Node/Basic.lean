import FormEngine.Yaml.Tag

/-!
# YAML nodes

A document is a tree of nodes. Its aliases have been replaced by the nodes that their anchors mark.
-/

namespace FormEngine.Yaml

/-- A node of a document. -/
inductive Node where
  | scalar (tag : Tag) (text : String)
  | sequence (tag : Tag) (items : List Node)
  | mapping (tag : Tag) (entries : List (Node × Node))

/-- The tag of a node. -/
def Node.tag : Node → Tag
  | .scalar tag _ | .sequence tag _ | .mapping tag _ => tag

/-- The node of nothing. -/
def Node.empty : Node :=
  .scalar .null ""

end FormEngine.Yaml
