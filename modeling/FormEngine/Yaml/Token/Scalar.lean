import FormEngine.Fault
import FormEngine.Number.Numeral
import FormEngine.Text.Digit
import FormEngine.Text.Unit
import FormEngine.Yaml.Cursor

/-!
# The text of scalars

Scalars are written plainly, in quotes or as blocks of lines. Where a scalar flows over several
lines, a single line break is a space and further ones stand for themselves; blocks keep their
breaks unless they are folded.

Every bound on steps is the length of the text, which suffices because every step passes a
character.
-/

namespace FormEngine.Yaml

/-- A scalar, or a part of it, with the place behind it. -/
structure Scanned where
  text : List Char
  cursor : Cursor

/-- What a run of line breaks inside a flowing scalar stands for. -/
def foldBreaks (first : Char) (further : List Char) : List Char :=
  if first != '\n' then first :: further
  else if further.isEmpty then [' ']
  else further

/-- Characters that end plain scalars inside brackets. -/
def isFlowEnd (c : Char) : Bool :=
  c == ',' || c == '?' || c == '[' || c == ']' || c == '\x7b' || c == '\x7d'

/-- Whether a colon before what comes next ends a plain scalar. -/
def colonEnds (inFlow : Bool) (next : Option Char) : Bool :=
  endsWord next || inFlow && next.any fun c => isFlowEnd c && c != '?'

/-- The length of the word ahead in a plain scalar. -/
def plainLength (inFlow : Bool) : List Char → Nat
  | [] => 0
  | c :: rest =>
    if isSeparator c || c == ':' && colonEnds inFlow rest.head? || inFlow && isFlowEnd c then 0
    else 1 + plainLength inFlow rest

/-- What separates two words of a plain scalar, or nothing where the scalar ends. -/
structure PlainGap where
  text : List Char
  cursor : Cursor
  crossesLine : Bool

/-- Passes spaces and line breaks. Nothing is given where a document marker begins a line. -/
def plainBreaks : (steps : Nat) → Cursor → Option (List Char) × Cursor
  | 0, cursor => (some [], cursor)
  | steps + 1, cursor =>
    if cursor.peek == some ' ' then plainBreaks steps cursor.advance
    else
      match cursor.lineBreak? with
      | none => (some [], cursor)
      | some (c, next) =>
        if next.atMarker then (none, next)
        else
          let (breaks, last) := plainBreaks steps next
          (breaks.map (c :: ·), last)

/-- Scans what follows a word of a plain scalar. -/
def scanPlainGap (cursor : Cursor) : PlainGap :=
  let (spaces, after) := cursor.span (· == ' ')
  match after.lineBreak? with
  | none => ⟨spaces, after, false⟩
  | some (first, next) =>
    if next.atMarker then ⟨[], next, true⟩
    else
      match plainBreaks next.rest.length next with
      | (none, last) => ⟨[], last, true⟩
      | (some further, last) => ⟨foldBreaks first further, last, true⟩

/-- Scans the words of a plain scalar; outside brackets they have to be indented. The flag tells
whether the scalar ends behind a line break. -/
def scanWords (inFlow : Bool) (indent : Int) :
    (steps : Nat) → (text : List Char) → (gap : PlainGap) → Scanned × Bool
  | 0, text, gap => (⟨text, gap.cursor⟩, gap.crossesLine)
  | steps + 1, text, gap =>
    let length := plainLength inFlow gap.cursor.rest
    if gap.cursor.peek == some '#' || length = 0 then (⟨text, gap.cursor⟩, gap.crossesLine)
    else
      let text := text ++ gap.text ++ gap.cursor.rest.take length
      let next := scanPlainGap (gap.cursor.skip length)
      if next.text.isEmpty || next.cursor.peek == some '#'
          || !inFlow && (next.cursor.column : Int) < indent then
        (⟨text, next.cursor⟩, next.crossesLine)
      else scanWords inFlow indent steps text next

/-- Scans a plain scalar. -/
def scanPlain (inFlow : Bool) (indent : Int) (cursor : Cursor) : Scanned × Bool :=
  scanWords inFlow indent cursor.rest.length [] ⟨[], cursor, false⟩

/-- Passes the line breaks inside quotes, where no document marker may begin a line. -/
def quotedBreaks : (steps : Nat) → Cursor → Except Fault Scanned
  | 0, _ => .error .invalidYaml
  | steps + 1, cursor =>
    if cursor.atMarker then .error .invalidYaml
    else
      let after := cursor.skipWhile isGap
      match after.lineBreak? with
      | none => .ok ⟨[], after⟩
      | some (c, next) => do
        let further ← quotedBreaks steps next
        return { further with text := c :: further.text }

/-- Scans the space between words inside quotes. -/
def scanQuotedGap (cursor : Cursor) : Except Fault Scanned :=
  let (spaces, after) := cursor.span isGap
  match after.lineBreak? with
  | some (first, next) => do
    let further ← quotedBreaks (next.rest.length + 1) next
    return { further with text := foldBreaks first further.text }
  | none => if after.rest.isEmpty then .error .invalidYaml else .ok ⟨spaces, after⟩

/-- The character of an escape of one letter. -/
def escapedChar? : Char → Option Char
  | '0' => some '\x00'
  | 'a' => some '\x07'
  | 'b' => some '\x08'
  | 't' | '\t' => some '\t'
  | 'n' => some '\n'
  | 'v' => some '\x0b'
  | 'f' => some '\x0c'
  | 'r' => some '\r'
  | 'e' => some '\x1b'
  | ' ' => some ' '
  | '"' => some '"'
  | '\\' => some '\\'
  | '/' => some '/'
  | 'N' => some '\x85'
  | '_' => some '\xa0'
  | 'L' => some '\u2028'
  | 'P' => some '\u2029'
  | _ => none

/-- The number of digits behind the letter of a numeric escape. -/
def escapeDigits? : Char → Option Nat
  | 'x' => some 2
  | 'u' => some 4
  | 'U' => some 8
  | _ => none

/-- The character with a code. -/
def escapedCode (code : Nat) : Except Fault Char :=
  if code < 0x110000 then .ok (Text.charOfCode code) else .error (.noSuchCharacter code)

/-- Scans an escape behind its backslash. -/
def scanEscape (cursor : Cursor) : Except Fault Scanned :=
  match cursor.peek with
  | none => .error .invalidYaml
  | some letter =>
    match escapedChar? letter, escapeDigits? letter, cursor.lineBreak? with
    | some c, _, _ => .ok ⟨[c], cursor.advance⟩
    | none, some count, _ =>
      let digits := (cursor.rest.drop 1).take count
      match digits.length == count, Text.ofDigits? 16 digits with
      | true, some code => do return ⟨[← escapedCode code], cursor.skip (count + 1)⟩
      | _, _ => .error .invalidYaml
    | none, none, some (_, next) => quotedBreaks (next.rest.length + 1) next
    | none, none, none => .error .invalidYaml

/-- Scans a quoted scalar behind its opening quote. -/
def scanQuoted (double : Bool) : (steps : Nat) → (text : List Char) → Cursor → Except Fault Scanned
  | 0, _, _ => .error .invalidYaml
  | steps + 1, text, cursor =>
    match cursor.rest with
    | [] => .error .invalidYaml
    | c :: rest =>
      if isSeparator c then do
        let gap ← scanQuotedGap cursor
        scanQuoted double steps (text ++ gap.text) gap.cursor
      else if !double && c == '\'' then
        if rest.head? == some '\'' then
          scanQuoted double steps (text ++ ['\'']) (cursor.skip 2)
        else .ok ⟨text, cursor.advance⟩
      else if double && c == '"' then .ok ⟨text, cursor.advance⟩
      else if double && c == '\\' then do
        let escape ← scanEscape cursor.advance
        scanQuoted double steps (text ++ escape.text) escape.cursor
      else scanQuoted double steps (text ++ [c]) cursor.advance

/-- What becomes of the line breaks at the end of a block. -/
inductive Chomping where
  | strip
  | clip
  | keep
  deriving DecidableEq, Repr

/-- The header of a block: its chomping, and its indentation if it is given. -/
structure BlockHeader where
  chomping : Chomping := .clip
  increment : Option Nat := none

/-- The chomping that a sign asks for. -/
def chomping? : Option Char → Option Chomping
  | some '+' => some .keep
  | some '-' => some .strip
  | _ => none

/-- The indentation that a digit asks for. -/
def increment? (next : Option Char) : Option Nat :=
  next.bind fun c => if c.isDigit then some (c.toNat - '0'.toNat) else none

/-- Scans the sign and the digit of a header, in either order. -/
def scanIndicators (cursor : Cursor) : BlockHeader × Cursor :=
  match chomping? cursor.peek, increment? cursor.peek with
  | some chomping, _ =>
    let next := cursor.advance
    match increment? next.peek with
    | some increment => (⟨chomping, some increment⟩, next.advance)
    | none => (⟨chomping, none⟩, next)
  | none, some increment =>
    let next := cursor.advance
    match chomping? next.peek with
    | some chomping => (⟨chomping, some increment⟩, next.advance)
    | none => (⟨.clip, some increment⟩, next)
  | none, none => ({}, cursor)

/-- Passes the rest of a line, on which only a comment may stand. -/
def skipEmptyLine (cursor : Cursor) : Except Fault Cursor :=
  let after := cursor.skipSpaces.skipComment
  match after.lineBreak? with
  | some (_, next) => .ok next
  | none => if after.rest.isEmpty then .ok after else .error .invalidYaml

/-- Scans the header of a block up to its first line. -/
def scanHeader (cursor : Cursor) : Except Fault (BlockHeader × Cursor) := do
  let (header, after) := scanIndicators cursor
  if header.increment = some 0 then throw .invalidYaml
  else if after.peek == some '\t' || !endsWord after.peek then throw .invalidYaml
  else return (header, ← skipEmptyLine after)

/-- Passes empty lines at the start of a block and finds its indentation, the widest of them. -/
def measureIndent : (steps : Nat) → (widest : Nat) → Cursor → Scanned × Nat
  | 0, widest, cursor => (⟨[], cursor⟩, widest)
  | steps + 1, widest, cursor =>
    if cursor.peek == some ' ' then
      measureIndent steps (max widest cursor.advance.column) cursor.advance
    else
      match cursor.lineBreak? with
      | none => (⟨[], cursor⟩, widest)
      | some (c, next) =>
        let (further, widest) := measureIndent steps widest next
        ({ further with text := c :: further.text }, widest)

/-- Passes spaces up to a column. -/
def skipIndent (indent : Nat) : (steps : Nat) → Cursor → Cursor
  | 0, cursor => cursor
  | steps + 1, cursor =>
    if cursor.column < indent && cursor.peek == some ' ' then
      skipIndent indent steps cursor.advance
    else cursor

/-- Passes empty lines inside a block. -/
def blockBreaks (indent : Nat) : (steps : Nat) → Cursor → Scanned
  | 0, cursor => ⟨[], cursor⟩
  | steps + 1, cursor =>
    let after := skipIndent indent indent cursor
    match after.lineBreak? with
    | none => ⟨[], after⟩
    | some (c, next) =>
      let further := blockBreaks indent steps next
      { further with text := c :: further.text }

/-- Whether a line of a block begins with a space or a tab, and so is not folded. -/
def beginsWithGap (cursor : Cursor) : Bool :=
  cursor.peek.any isGap

/-- What joins a line of a folded block to the next. -/
def joinLines (folded gapped : Bool) (ending : List Char) (breaks : List Char) : List Char :=
  if folded && ending == ['\n'] && !gapped then (if breaks.isEmpty then [' '] else [])
  else ending

/-- Scans the lines of a block. -/
def scanLines (folded : Bool) (chomping : Chomping) (indent : Nat) :
    (steps : Nat) → (text : List Char) → (ending : List Char) → (breaks : Scanned) → Scanned
  | 0, text, _, breaks => ⟨text, breaks.cursor⟩
  | steps + 1, text, ending, breaks =>
    let cursor := breaks.cursor
    if cursor.column = indent && !cursor.rest.isEmpty then
      let (line, after) := cursor.span (!isBreak ·)
      let (ending', next) := match after.lineBreak? with
        | some (c, next) => ([c], next)
        | none => ([], after)
      let breaks' := blockBreaks indent (next.rest.length + 1) next
      let text := text ++ breaks.text ++ line
      if breaks'.cursor.column = indent && !breaks'.cursor.rest.isEmpty then
        let joint := joinLines folded (beginsWithGap cursor || beginsWithGap breaks'.cursor)
          ending' breaks'.text
        scanLines folded chomping indent steps (text ++ joint) [] breaks'
      else finish text ending' breaks'
    else finish text ending breaks
where
  finish (text ending : List Char) (breaks : Scanned) : Scanned :=
    let text := if chomping = .strip then text else text ++ ending
    ⟨if chomping = .keep then text ++ breaks.text else text, breaks.cursor⟩

/-- Scans a block scalar behind its indicator. -/
def scanBlock (folded : Bool) (indent : Int) (cursor : Cursor) : Except Fault Scanned := do
  let (header, start) ← scanHeader cursor
  let least := max 1 (indent + 1).toNat
  let steps := start.rest.length + 1
  match header.increment with
  | none =>
    let (breaks, widest) := measureIndent steps 0 start
    return scanLines folded header.chomping (max least widest) steps [] [] breaks
  | some increment =>
    let indent := least + increment - 1
    return scanLines folded header.chomping indent steps [] [] (blockBreaks indent steps start)

end FormEngine.Yaml
