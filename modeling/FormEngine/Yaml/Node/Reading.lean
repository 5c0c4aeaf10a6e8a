import FormEngine.Yaml.Node.Basic
import FormEngine.Yaml.Token.Basic

/-!
# The nodes that tokens stand for

Tokens are read into a tree of nodes. An alias is replaced by the node that its anchor marks, so a
node can not lie inside itself. That the tokens form no document is one fault, which is not told
further; a fault of the text counts once a token behind it is asked for.

The bound on nested steps is three times the number of tokens, which suffices because two nested
steps at most are made between one token and the next.
-/

namespace FormEngine.Yaml

/-- What is known between two tokens. -/
structure TokenContext extends TokenStream where
  /-- The meanings of tag handles. -/
  handles : List (String × String)
  anchors : List (String × Node) := []

/-- A step that reads tokens. -/
abbrev TokenReader := StateT TokenContext (Except Fault)

namespace TokenReader

/-- Tells that the tokens form no document. -/
def reject {α : Type} : TokenReader α :=
  throw .invalidYaml

/-- The next token. -/
def peek : TokenReader (Option Token) := do
  let state ← get
  match state.tokens, state.ending with
  | [], some fault => throw fault
  | tokens, _ => return tokens.head?

/-- Passes the next token. -/
def drop : TokenReader Unit :=
  modify fun state => { state with tokens := state.tokens.tail }

/-- Whether the next token is one of some tokens. -/
def isNext (tokens : List Token) : TokenReader Bool :=
  return (← peek).any tokens.contains

/-- Passes a token if it is next, and tells whether it was. -/
def takeIf (token : Token) : TokenReader Bool := do
  if ← isNext [token] then
    drop
    return true
  else return false

/-- Passes a token that must be next. -/
def require (token : Token) : TokenReader Unit := do
  if ← takeIf token then return () else reject

/-- The anchor and the tag in front of a node. -/
structure Properties where
  anchor : Option String := none
  tag : Option WrittenTag := none

/-- Takes an anchor if one is next. -/
def anchor? : TokenReader (Option String) := do
  match ← peek with
  | some (.anchor name) =>
    drop
    return some name
  | _ => return none

/-- Takes a tag if one is next. -/
def tag? : TokenReader (Option WrittenTag) := do
  match ← peek with
  | some (.tag written) =>
    drop
    return some written
  | _ => return none

/-- Takes an anchor and a tag, in either order. -/
def properties : TokenReader Properties := do
  match ← anchor? with
  | some anchor => return { anchor, tag := ← tag? }
  | none =>
    match ← tag? with
    | some tag => return { tag, anchor := ← anchor? }
    | none => return {}

/-- The name of a written tag. -/
def tagName (written : WrittenTag) : TokenReader String := do
  match written.handle with
  | none => return written.suffix
  | some handle =>
    match (← get).handles.find? (·.1 == handle) with
    | some (_, stem) => return stem ++ written.suffix
    | none => reject

/-- The tag that a node is given; the tag `!` leaves it to the text of the node. -/
def givenTag? (properties : Properties) : TokenReader (Option Tag) := do
  match properties.tag with
  | none => return none
  | some written =>
    let name ← tagName written
    return if name = "!" then none else some (.ofName name)

/-- The node of a scalar. Text in quotes is text, unless the tag `!` asks to look at it. -/
def scalarNode (properties : Properties) (given : Option Tag) (text : String) (plain : Bool) :
    Node :=
  match given with
  | some tag => .scalar tag text
  | none => .scalar (if plain || properties.tag.isSome then plainTag text else .str) text

/-- Refuses an anchor that marks a node already. -/
def requireNewAnchor (properties : Properties) : TokenReader Unit := do
  let state ← get
  if properties.anchor.any fun name => state.anchors.any (·.1 == name) then reject else return ()

/-- Marks a node by its anchor, which no other node has. -/
def mark (properties : Properties) (node : Node) : TokenReader Node := do
  requireNewAnchor properties
  match properties.anchor with
  | none => return node
  | some name =>
    modify fun state => { state with anchors := (name, node) :: state.anchors }
    return node

/-- The node that an alias stands for. -/
def aliased (name : String) : TokenReader Node := do
  match (← get).anchors.find? (·.1 == name) with
  | some (_, node) => return node
  | none => reject

/-- Where a node stands: inside brackets, in a block, or as a part of a map in a block, where a
sequence needs no indentation. -/
inductive Place where
  | flow
  | block
  | blockEntry
  deriving DecidableEq, Repr

mutual

/-- Reads a node. -/
def node : (steps : Nat) → Place → TokenReader Node
  | 0, _ => reject
  | steps + 1, place => do
    match ← peek with
    | some (.alias name) =>
      drop
      aliased name
    | _ =>
      let properties ← properties
      let given ← givenTag? properties
      -- whether the anchor is new shows when the node begins, not when it ends
      let _ ← peek
      requireNewAnchor properties
      mark properties (← content steps place properties given)

/-- Reads a node behind its properties. -/
def content : (steps : Nat) → Place → Properties → Option Tag → TokenReader Node
  | 0, _, _, _ => reject
  | steps + 1, place, properties, given => do
    match ← peek, place with
    | some .blockEntry, .blockEntry =>
      return .sequence (given.getD .sequence) (← dashedItems steps)
    | some (.scalar text plain), _ =>
      drop
      return scalarNode properties given text plain
    | some .flowSequenceStart, _ =>
      drop
      return .sequence (given.getD .sequence) (← flowItems steps true)
    | some .flowMappingStart, _ =>
      drop
      return .mapping (given.getD .mapping) (← flowEntries steps true)
    | some .blockSequenceStart, .block | some .blockSequenceStart, .blockEntry =>
      drop
      return .sequence (given.getD .sequence) (← blockItems steps)
    | some .blockMappingStart, .block | some .blockMappingStart, .blockEntry =>
      drop
      return .mapping (given.getD .mapping) (← blockEntries steps)
    | _, _ =>
      if properties.anchor.isSome || properties.tag.isSome then
        return .scalar (given.getD .null) ""
      else reject

/-- Reads a node, or nothing where one of some tokens comes. -/
def nodeUnless : (steps : Nat) → Place → List Token → TokenReader Node
  | 0, _, _ => reject
  | steps + 1, place, ends => do
    if ← isNext ends then return Node.empty else node steps place

/-- Reads the items of a sequence in a block. -/
def blockItems : (steps : Nat) → TokenReader (List Node)
  | 0 => reject
  | steps + 1 => do
    if ← takeIf .blockEntry then
      let item ← nodeUnless steps .block [.blockEntry, .blockEnd]
      return item :: (← blockItems steps)
    else
      require .blockEnd
      return []

/-- Reads the items of a sequence that is not indented. -/
def dashedItems : (steps : Nat) → TokenReader (List Node)
  | 0 => reject
  | steps + 1 => do
    if ← takeIf .blockEntry then
      let item ← nodeUnless steps .block [.blockEntry, .key, .value, .blockEnd]
      return item :: (← dashedItems steps)
    else return []

/-- Reads the entries of a map in a block. -/
def blockEntries : (steps : Nat) → TokenReader (List (Node × Node))
  | 0 => reject
  | steps + 1 => do
    if ← takeIf .key then
      let key ← nodeUnless steps .blockEntry [.key, .value, .blockEnd]
      let value ←
        if ← takeIf .value then nodeUnless steps .blockEntry [.key, .value, .blockEnd]
        else pure Node.empty
      return (key, value) :: (← blockEntries steps)
    else
      require .blockEnd
      return []

/-- Reads an entry inside brackets behind its key token. -/
def flowEntry : (steps : Nat) → (closing : Token) → TokenReader (Node × Node)
  | 0, _ => reject
  | steps + 1, closing => do
    let key ← nodeUnless steps .flow [.value, .flowEntry, closing]
    let value ←
      if ← takeIf .value then nodeUnless steps .flow [.flowEntry, closing]
      else pure Node.empty
    return (key, value)

/-- Reads the items of a sequence in brackets. An entry among them is a map of its own. -/
def flowItems : (steps : Nat) → (first : Bool) → TokenReader (List Node)
  | 0, _ => reject
  | steps + 1, first => do
    if ← takeIf .flowSequenceEnd then return []
    else
      if !first then require .flowEntry
      if ← takeIf .flowSequenceEnd then return []
      else
        let item ←
          if ← takeIf .key then
            pure (.mapping .mapping [← flowEntry steps .flowSequenceEnd])
          else node steps .flow
        return item :: (← flowItems steps false)

/-- Reads the entries of a map in brackets. -/
def flowEntries : (steps : Nat) → (first : Bool) → TokenReader (List (Node × Node))
  | 0, _ => reject
  | steps + 1, first => do
    if ← takeIf .flowMappingEnd then return []
    else
      if !first then require .flowEntry
      if ← takeIf .flowMappingEnd then return []
      else
        let entry ←
          if ← takeIf .key then flowEntry steps .flowMappingEnd
          else pure (← node steps .flow, Node.empty)
        return entry :: (← flowEntries steps false)

end

/-- The meanings that tag handles have without a directive. -/
def defaultHandles : List (String × String) :=
  [("!", "!"), ("!!", Tag.commonStem)]

/-- Reads directives. There is one version at most, and it must be one that is known; a handle
has one meaning at most. -/
def directives (versioned : Bool) : (steps : Nat) → TokenReader Unit
  | 0 => reject
  | steps + 1 => do
    match ← peek with
    | some (.version major) =>
      drop
      if versioned || major != 1 then reject else directives true steps
    | some (.tagHandle handle stem) =>
      drop
      if (← get).handles.any (·.1 == handle) then reject
      else
        modify fun state => { state with handles := state.handles ++ [(handle, stem)] }
        directives versioned steps
    | some .otherDirective =>
      drop
      directives versioned steps
    | _ => return ()

/-- Reads what stands before the root of a document that is announced. -/
def announcement (steps : Nat) : TokenReader Unit := do
  directives false steps
  require .documentStart
  modify fun state => { state with handles := state.handles ++ defaultHandles }

/-- Reads the root of a document that is announced; it may be left out. -/
def rootUnlessEnded (steps : Nat) : TokenReader Node := do
  match ← peek with
  | none | some .documentStart | some .documentEnd | some (.version _) | some (.tagHandle ..)
  | some .otherDirective => return Node.empty
  | _ => node steps .block

/-- Passes marks of the end of a document. No other document may follow. -/
def ended : (steps : Nat) → TokenReader Unit
  | 0 => reject
  | steps + 1 => do
    if ← takeIf .documentEnd then ended steps
    else
      match ← peek with
      | none => return ()
      | some _ =>
        announcement steps
        reject

/-- Reads the node of the only document, if there is one at all. -/
def root? (steps : Nat) : TokenReader (Option Node) := do
  match ← peek with
  | none => return none
  | some (.version _) | some (.tagHandle ..) | some .otherDirective | some .documentStart =>
    announcement steps
    let root ← rootUnlessEnded steps
    ended steps
    return some root
  | some _ =>
    modify fun state => { state with handles := defaultHandles }
    let root ← node steps .block
    ended steps
    return some root

/-- The node of the only document, if there is one at all. -/
def document (stream : TokenStream) : Except Fault (Option Node) :=
  let steps := 3 * stream.tokens.length + 3
  ((root? steps).run { stream with handles := [] }).map (·.1)

end TokenReader

end FormEngine.Yaml
