import FormEngine.Yaml.Token.Basic
import FormEngine.Yaml.Token.Scalar

/-!
# The tokens of a text

A lexer makes a text into tokens. Outside brackets it turns indentation into the beginnings
and ends of blocks. A scalar, an alias or a bracket may turn out to be a key when a colon follows
it on its line, so the last candidate of each level of brackets is remembered, and the key token
is put in front of it when the colon comes.
-/

namespace FormEngine.Yaml

/-- Something that a colon would make a key. -/
structure KeyCandidate where
  /-- The number of tokens before it. -/
  place : Nat
  /-- Whether nothing but a key may stand here. -/
  required : Bool
  index : Nat
  line : Nat
  column : Nat

/-- A lexer on its way through a text. -/
structure Lexer where
  cursor : Cursor
  /-- The tokens so far, the latest first. -/
  tokens : List Token := []
  /-- The column of the innermost block. -/
  indent : Int := -1
  /-- The columns of the blocks around it. -/
  outerIndents : List Int := []
  /-- Whether a key may begin here. -/
  keyAllowed : Bool := true
  /-- The candidate inside the innermost brackets. -/
  candidate : Option KeyCandidate := none
  /-- The candidates of the levels around them; there is one level for each open bracket. -/
  outerCandidates : List (Option KeyCandidate) := []

namespace Lexer

/-- Whether the lexer is inside brackets. -/
def inFlow (lexer : Lexer) : Bool :=
  !lexer.outerCandidates.isEmpty

def push (lexer : Lexer) (token : Token) : Lexer :=
  { lexer with tokens := token :: lexer.tokens }

/-- Puts tokens in front of the token at a place. -/
def insertAt (lexer : Lexer) (place : Nat) (tokens : List Token) : Lexer :=
  let later := lexer.tokens.length - place
  { lexer with
    tokens := lexer.tokens.take later ++ tokens.reverse ++ lexer.tokens.drop later }

/-- Pushes a token and passes some characters. -/
def take (lexer : Lexer) (token : Token) (width : Nat) : Lexer :=
  { lexer.push token with cursor := lexer.cursor.skip width }

/-- The longest key that a colon may follow. -/
def keyLimit : Nat := 1024

/-- Gives up a candidate, which must not be required. -/
def giveUp (candidate : Option KeyCandidate) : Except Fault (Option KeyCandidate) :=
  if candidate.any (·.required) then .error .invalidYaml else .ok none

/-- Gives up a candidate that lies on an earlier line or too far back. -/
def giveUpStale (cursor : Cursor) (candidate : Option KeyCandidate) :
    Except Fault (Option KeyCandidate) :=
  if candidate.any fun key => key.line != cursor.line || cursor.index - key.index > keyLimit then
    giveUp candidate
  else .ok candidate

/-- Gives up all stale candidates. -/
def dropStale (lexer : Lexer) : Except Fault Lexer := do
  return { lexer with
    candidate := ← giveUpStale lexer.cursor lexer.candidate
    outerCandidates := ← lexer.outerCandidates.mapM (giveUpStale lexer.cursor) }

/-- Gives up the candidate of this level. -/
def dropCandidate (lexer : Lexer) : Except Fault Lexer := do
  return { lexer with candidate := ← giveUp lexer.candidate }

/-- Remembers that what comes may be a key. -/
def markCandidate (lexer : Lexer) : Except Fault Lexer := do
  if lexer.keyAllowed then
    let lexer ← lexer.dropCandidate
    let cursor := lexer.cursor
    return { lexer with
      candidate := some {
        place := lexer.tokens.length
        required := !lexer.inFlow && lexer.indent == cursor.column
        index := cursor.index
        line := cursor.line
        column := cursor.column } }
  else return lexer

/-- Says whether a key may begin next. -/
def allowKey (lexer : Lexer) (allowed : Bool) : Lexer :=
  { lexer with keyAllowed := allowed }

/-- Ends the blocks that are indented deeper than a column. -/
def endBlocks (column : Int) :
    (indent : Int) → (outer : List Int) → List Token → Int × List Int × List Token
  | indent, [], tokens => (indent, [], tokens)
  | indent, next :: outer, tokens =>
    if indent > column then endBlocks column next outer (.blockEnd :: tokens)
    else (indent, next :: outer, tokens)

/-- Ends the blocks that are indented deeper than a column. Brackets make indentation
meaningless. -/
def unwind (lexer : Lexer) (column : Int) : Lexer :=
  if lexer.inFlow then lexer
  else
    let (indent, outerIndents, tokens) :=
      endBlocks column lexer.indent lexer.outerIndents lexer.tokens
    { lexer with indent, outerIndents, tokens }

/-- Begins a block at a column if it is deeper than the innermost one. The flag tells whether it
was. -/
def deepen (lexer : Lexer) (column : Nat) : Lexer × Bool :=
  if lexer.indent < column then
    ({ lexer with
        indent := column
        outerIndents := lexer.indent :: lexer.outerIndents }, true)
  else (lexer, false)

/-- Begins a block at the cursor if it is deeper than the innermost one. -/
def beginBlock (lexer : Lexer) (token : Token) : Lexer :=
  match lexer.deepen lexer.cursor.column with
  | (lexer, true) => lexer.push token
  | (lexer, false) => lexer

/-- Passes spaces, comments and line breaks up to the next token. -/
def skipToToken (inFlow : Bool) : (steps : Nat) → (keyAllowed : Bool) → Cursor → Cursor × Bool
  | 0, keyAllowed, cursor => (cursor, keyAllowed)
  | steps + 1, keyAllowed, cursor =>
    let after := cursor.skipSpaces.skipComment
    match after.lineBreak? with
    | some (_, next) => skipToToken inFlow steps (keyAllowed || !inFlow) next
    | none => (after, keyAllowed)

/-- Passes to the next token. A byte order mark counts for nothing at the start of the text. -/
def approach (lexer : Lexer) : Lexer :=
  let cursor := lexer.cursor
  let cursor := if cursor.index = 0 && cursor.peek == some '\ufeff' then cursor.advance else cursor
  let (cursor, keyAllowed) :=
    skipToToken lexer.inFlow (cursor.rest.length + 1) lexer.keyAllowed cursor
  { lexer with cursor, keyAllowed }

/-- Scans a name of at least one character. -/
def scanName (cursor : Cursor) : Except Fault (String × Cursor) :=
  let (name, after) := cursor.span isNameChar
  if name.isEmpty then .error .invalidYaml else .ok (String.ofList name, after)

/-- Whether a word ends before what comes next, which is no tab. -/
def endsStrictWord (next : Option Char) : Bool :=
  next != some '\t' && endsWord next

/-- Requires that a word ends here. -/
def requireEnd (cursor : Cursor) : Except Fault Unit :=
  if endsStrictWord cursor.peek then .ok () else .error .invalidYaml

/-- Scans a number of at least one digit. -/
def scanNumber (cursor : Cursor) : Except Fault (Nat × Cursor) :=
  let (digits, after) := cursor.span Char.isDigit
  if digits.isEmpty then .error .invalidYaml
  else if Numeral.digitLimit < digits.length then .error (.integerTooLong digits.length)
  else .ok (Numeral.value digits, after)

/-- Scans the version that a directive asks for. -/
def scanVersion (cursor : Cursor) : Except Fault (Token × Cursor) := do
  let (major, after) ← scanNumber cursor.skipSpaces
  if after.peek != some '.' then throw .invalidYaml
  else
    let (_, after) ← scanNumber after.advance
    requireEnd after
    return (.version major, after)

/-- Scans a tag handle. -/
def scanHandle (cursor : Cursor) : Except Fault (String × Cursor) :=
  if cursor.peek != some '!' then .error .invalidYaml
  else if cursor.peekAt 1 == some ' ' then .ok ("!", cursor.advance)
  else
    let (name, after) := cursor.advance.span isNameChar
    if after.peek == some '!' then .ok (String.ofList ('!' :: name ++ ['!']), after.advance)
    else .error .invalidYaml

/-- A character of tags. -/
def isTagChar (c : Char) : Bool :=
  c.isAlphanum || "-;/?:@&=+$,_.!~*'()[]%".toList.contains c

/-- Resolves the escapes in a tag. Tags that matter are written in ASCII. -/
def unescapeTag : List Char → Except Fault (List Char)
  | [] => .ok []
  | '%' :: a :: b :: rest => do
    match Text.ofDigits? 16 [a, b] with
    | some code =>
      if code < 0x80 then return Char.ofNat code :: (← unescapeTag rest) else throw .invalidYaml
    | none => throw .invalidYaml
  | c :: rest => do
    if c == '%' then throw .invalidYaml else return c :: (← unescapeTag rest)

/-- Scans a tag, or what is left of it behind its handle. -/
def scanTagText (cursor : Cursor) : Except Fault (String × Cursor) := do
  let (text, after) := cursor.span isTagChar
  if text.isEmpty then throw .invalidYaml
  else return (String.ofList (← unescapeTag text), after)

/-- Scans the meaning that a directive gives to a tag handle. -/
def scanHandleMeaning (cursor : Cursor) : Except Fault (Token × Cursor) := do
  let (handle, after) ← scanHandle cursor.skipSpaces
  if after.peek != some ' ' then throw .invalidYaml
  else
    let (expansion, after) ← scanTagText after.skipSpaces
    requireEnd after
    return (.tagHandle handle expansion, after)

/-- Scans a directive with the rest of its line. -/
def scanDirective (cursor : Cursor) : Except Fault (Token × Cursor) := do
  let (name, after) ← scanName cursor.advance
  requireEnd after
  let (token, after) ←
    if name = "YAML" then scanVersion after
    else if name = "TAG" then scanHandleMeaning after
    else pure (.otherDirective, after.skipWhile (!isBreak ·))
  return (token, ← skipEmptyLine after)

/-- Whether the name of an anchor ends before what comes next. -/
def endsAnchor (next : Option Char) : Bool :=
  endsWord next || next.any "?:,]\x7d%@\x60".toList.contains

/-- Scans the name of an anchor or an alias behind its indicator. -/
def scanAnchor (cursor : Cursor) : Except Fault (String × Cursor) := do
  let (name, after) ← scanName cursor.advance
  if endsAnchor after.peek then return (name, after) else throw .invalidYaml

/-- Whether a tag that begins here has a handle of its own. -/
def hasHandle (cursor : Cursor) : Bool :=
  ((cursor.rest.drop 1).takeWhile fun c => !endsStrictWord (some c)).contains '!'

/-- Scans a tag. -/
def scanTag (cursor : Cursor) : Except Fault (WrittenTag × Cursor) := do
  let (tag, after) ←
    if cursor.peekAt 1 == some '<' then do
      let (text, after) ← scanTagText (cursor.skip 2)
      if after.peek == some '>' then pure (⟨none, text⟩, after.advance) else throw .invalidYaml
    else if endsWord (cursor.peekAt 1) then pure (⟨none, "!"⟩, cursor.advance)
    else do
      let (handle, after) ←
        if hasHandle cursor then scanHandle cursor else pure ("!", cursor.advance)
      let (suffix, after) ← scanTagText after
      pure (⟨some handle, suffix⟩, after)
  requireEnd after
  return (tag, after)

/-- Ends the document so far: all blocks end and no candidate is left. -/
def endContent (lexer : Lexer) : Except Fault Lexer := do
  return ((← (lexer.unwind (-1)).dropCandidate).allowKey false)

/-- Takes a marker of the start or the end of a document. -/
def takeMarker (lexer : Lexer) (token : Token) : Except Fault Lexer := do
  return (← lexer.endContent).take token 3

/-- Takes a directive. -/
def takeDirective (lexer : Lexer) : Except Fault Lexer := do
  let lexer ← lexer.endContent
  let (token, cursor) ← scanDirective lexer.cursor
  return { lexer.push token with cursor }

/-- Takes an opening bracket. -/
def openFlow (lexer : Lexer) (token : Token) : Except Fault Lexer := do
  let lexer ← lexer.markCandidate
  return { (lexer.take token 1).allowKey true with
    candidate := none
    outerCandidates := lexer.candidate :: lexer.outerCandidates }

/-- Takes a closing bracket. -/
def closeFlow (lexer : Lexer) (token : Token) : Except Fault Lexer := do
  let lexer ← lexer.dropCandidate
  match lexer.outerCandidates with
  | [] => throw .invalidYaml
  | candidate :: outerCandidates =>
    return { (lexer.take token 1).allowKey false with candidate, outerCandidates }

/-- Takes a comma. -/
def takeFlowEntry (lexer : Lexer) : Except Fault Lexer := do
  return ((← lexer.dropCandidate).take .flowEntry 1).allowKey true

/-- Begins a block at the cursor, where a key must be allowed; brackets need no blocks. -/
def beginEntry (lexer : Lexer) (token : Token) : Except Fault Lexer :=
  if lexer.inFlow then .ok lexer
  else if lexer.keyAllowed then .ok (lexer.beginBlock token)
  else .error .invalidYaml

/-- Takes a dash. -/
def takeBlockEntry (lexer : Lexer) : Except Fault Lexer := do
  let lexer ← (← lexer.beginEntry .blockSequenceStart).dropCandidate
  return (lexer.take .blockEntry 1).allowKey true

/-- Takes a question mark. -/
def takeKey (lexer : Lexer) : Except Fault Lexer := do
  let lexer ← (← lexer.beginEntry .blockMappingStart).dropCandidate
  return (lexer.take .key 1).allowKey (!lexer.inFlow)

/-- Takes a colon. If there is a candidate it is the key. -/
def takeValue (lexer : Lexer) : Except Fault Lexer := do
  match lexer.candidate with
  | some key =>
    let lexer := { lexer with candidate := none }
    let (lexer, deeper) := if lexer.inFlow then (lexer, false) else lexer.deepen key.column
    let lexer := lexer.insertAt key.place
      (if deeper then [.blockMappingStart, .key] else [.key])
    return (lexer.take .value 1).allowKey false
  | none =>
    let lexer ← lexer.beginEntry .blockMappingStart
    return (lexer.take .value 1).allowKey (!lexer.inFlow)

/-- Takes a name behind an indicator. -/
def takeNamed (lexer : Lexer) (token : String → Token) : Except Fault Lexer := do
  let lexer := (← lexer.markCandidate).allowKey false
  let (name, cursor) ← scanAnchor lexer.cursor
  return { lexer.push (token name) with cursor }

/-- Takes a tag. -/
def takeTag (lexer : Lexer) : Except Fault Lexer := do
  let lexer := (← lexer.markCandidate).allowKey false
  let (tag, cursor) ← scanTag lexer.cursor
  return { lexer.push (.tag tag) with cursor }

/-- Takes a block scalar. -/
def takeBlock (lexer : Lexer) (folded : Bool) : Except Fault Lexer := do
  let lexer := (← lexer.dropCandidate).allowKey true
  let scanned ← scanBlock folded lexer.indent lexer.cursor.advance
  return { lexer.push (.scalar (String.ofList scanned.text) false) with cursor := scanned.cursor }

/-- Takes a quoted scalar. -/
def takeQuoted (lexer : Lexer) (double : Bool) : Except Fault Lexer := do
  let lexer := (← lexer.markCandidate).allowKey false
  let scanned ← scanQuoted double lexer.cursor.rest.length [] lexer.cursor.advance
  return { lexer.push (.scalar (String.ofList scanned.text) false) with cursor := scanned.cursor }

/-- Takes a plain scalar. -/
def takePlain (lexer : Lexer) : Except Fault Lexer := do
  let lexer ← lexer.markCandidate
  let (scanned, crossesLine) := scanPlain lexer.inFlow (lexer.indent + 1) lexer.cursor
  return { (lexer.push (.scalar (String.ofList scanned.text) true)).allowKey crossesLine with
    cursor := scanned.cursor }

/-- Characters that no plain scalar begins with. -/
def indicators : List Char :=
  "-?:,[]\x7b\x7d#&*!|>'\"%@\x60".toList

/-- Whether a plain scalar begins here. -/
def beginsPlain (lexer : Lexer) (c : Char) (next : Option Char) : Bool :=
  !isSeparator c && !indicators.contains c
    || !endsWord next && (c == '-' || !lexer.inFlow && (c == '?' || c == ':'))

/-- Takes the token that begins with a character. -/
def takeToken (lexer : Lexer) (c : Char) : Except Fault Lexer :=
  let cursor := lexer.cursor
  let next := cursor.peekAt 1
  let atLineStart := cursor.column = 0
  if c == '%' && atLineStart then lexer.takeDirective
  else if atLineStart && cursor.hasWord '-' then lexer.takeMarker .documentStart
  else if atLineStart && cursor.hasWord '.' then lexer.takeMarker .documentEnd
  else if c == '[' then lexer.openFlow .flowSequenceStart
  else if c == '\x7b' then lexer.openFlow .flowMappingStart
  else if c == ']' then lexer.closeFlow .flowSequenceEnd
  else if c == '\x7d' then lexer.closeFlow .flowMappingEnd
  else if c == ',' then lexer.takeFlowEntry
  else if c == '-' && endsWord next then lexer.takeBlockEntry
  else if c == '?' && (lexer.inFlow || endsWord next) then lexer.takeKey
  else if c == ':' && (lexer.inFlow || endsWord next) then lexer.takeValue
  else if c == '*' then lexer.takeNamed .alias
  else if c == '&' then lexer.takeNamed .anchor
  else if c == '!' then lexer.takeTag
  else if c == '|' && !lexer.inFlow then lexer.takeBlock false
  else if c == '>' && !lexer.inFlow then lexer.takeBlock true
  else if c == '\'' then lexer.takeQuoted false
  else if c == '"' then lexer.takeQuoted true
  else if lexer.beginsPlain c next then lexer.takePlain
  else .error .invalidYaml

/-- Whether a candidate may still become a key. -/
def isLive (cursor : Cursor) (candidate : KeyCandidate) : Bool :=
  candidate.line == cursor.line && cursor.index - candidate.index ≤ keyLimit

/-- The tokens that are certain, whatever follows: those before all candidates that may still become
keys. -/
def settled (lexer : Lexer) : List Token :=
  let live := (lexer.candidate :: lexer.outerCandidates).filterMap
    fun candidate => candidate.filter (isLive lexer.cursor)
  lexer.tokens.reverse.take (live.foldl (fun place key => min place key.place) lexer.tokens.length)

/-- Takes the next token, or ends the text. The flag tells that the text has ended. -/
def step (lexer : Lexer) : Except Fault (Lexer × Bool) := do
  let lexer ← lexer.approach.dropStale
  let lexer := lexer.unwind lexer.cursor.column
  match lexer.cursor.peek with
  | none => return (← lexer.endContent, true)
  | some c => return (← lexer.takeToken c, false)

/-- Takes tokens up to the end of the text. Each of them passes a character. -/
def takeAll : (steps : Nat) → Lexer → TokenStream
  | 0, lexer => { tokens := lexer.settled, ending := some .invalidYaml }
  | steps + 1, lexer =>
    match lexer.step with
    | .error fault => { tokens := lexer.settled, ending := some fault }
    | .ok (lexer, true) => { tokens := lexer.tokens.reverse }
    | .ok (lexer, false) => takeAll steps lexer

end Lexer

/-- A character that may stand in a YAML text. -/
def isAllowed (c : Char) : Bool :=
  let code := c.toNat
  c == '\t' || c == '\n' || c == '\r' || c == '\x85' || 0x20 ≤ code && code ≤ 0x7e
    || 0xa0 ≤ code && code ≤ 0xd7ff || 0xe000 ≤ code && code ≤ 0xfffd || 0x10000 ≤ code

/-- The tokens of a text. -/
def scan (text : String) : TokenStream :=
  let characters := text.toList
  if characters.all isAllowed then
    Lexer.takeAll (characters.length + 1) { cursor := { rest := characters } }
  else { tokens := [], ending := some .invalidYaml }

end FormEngine.Yaml
