import FormEngine.Number.Numeral
import FormEngine.Pattern.Syntax
import FormEngine.Text.Identifier

/-!
# Reading patterns

The reader turns the text of a pattern into a `Node`. Reading fails in one of four ways: the text
is no pattern, a repetition count is too large or has too many digits to be read, or the modes for
ASCII and for all scripts are both switched on.
-/

namespace FormEngine.Pattern

/-- Why a text is refused as a pattern. -/
inductive Refusal where
  | malformed
  | repetitionTooLarge
  /-- A repetition count has more digits than are read. -/
  | countTooLong (digits : Nat)
  | modesIncompatible
  deriving DecidableEq, Repr

/-- A character of the pattern, or a backslash with the character behind it. A backslash at the
very end makes the pattern malformed as soon as it is next. -/
inductive Token where
  | plain (c : Char)
  | escape (c : Char)
  | lone
  deriving DecidableEq, Repr

/-- Splits the text into tokens. -/
def tokenize : List Char → List Token
  | [] => []
  | '\\' :: c :: rest => .escape c :: tokenize rest
  | ['\\'] => [.lone]
  | c :: rest => .plain c :: tokenize rest

/-- The modes that a pattern may switch on. -/
structure Modes where
  ignoreCase : Bool := false
  multiLine : Bool := false
  dotAll : Bool := false
  verbose : Bool := false
  ascii : Bool := false
  allScripts : Bool := false
  /-- A mode that allows no repetitions. -/
  template : Bool := false
  deriving DecidableEq, Repr

namespace Modes

/-- The mode named by a letter. -/
def ofLetter? : Char → Option Modes
  | 'i' => some { ignoreCase := true }
  | 'm' => some { multiLine := true }
  | 's' => some { dotAll := true }
  | 'x' => some { verbose := true }
  | 'a' => some { ascii := true }
  | 'u' => some { allScripts := true }
  | 't' => some { template := true }
  | _ => none

/-- The modes of either. -/
def union (left right : Modes) : Modes where
  ignoreCase := left.ignoreCase || right.ignoreCase
  multiLine := left.multiLine || right.multiLine
  dotAll := left.dotAll || right.dotAll
  verbose := left.verbose || right.verbose
  ascii := left.ascii || right.ascii
  allScripts := left.allScripts || right.allScripts
  template := left.template || right.template

/-- The modes of the first that the second lacks. -/
def without (left right : Modes) : Modes where
  ignoreCase := left.ignoreCase && !right.ignoreCase
  multiLine := left.multiLine && !right.multiLine
  dotAll := left.dotAll && !right.dotAll
  verbose := left.verbose && !right.verbose
  ascii := left.ascii && !right.ascii
  allScripts := left.allScripts && !right.allScripts
  template := left.template && !right.template

/-- Whether a mode chooses between ASCII and all scripts. -/
def choosesScript (modes : Modes) : Bool :=
  modes.ascii || modes.allScripts

/-- The modes inside a group that switches some on and some off. -/
def within (outer added removed : Modes) : Modes :=
  let base := if added.choosesScript then { outer with ascii := false, allScripts := false }
    else outer
  (base.union added).without removed

/-- How case counts. -/
def folding (modes : Modes) : Folding :=
  if modes.ignoreCase then (if modes.ascii then .asciiCase else .anyCase) else .exact

end Modes

/-- What the reader knows at a point of the text. -/
structure Progress where
  tokens : List Token
  /-- Modes of the whole pattern. -/
  modes : Modes := {}
  /-- The widths of the groups, the whole pattern first; open groups have none yet. -/
  groups : List (Option Width) := [none]
  names : List (String × Nat) := []
  /-- Groups that were there when the outermost look at earlier text began. -/
  behindLimit : Option Nat := none
  /-- Groups that conditions ask for by number. -/
  asked : List Nat := []
  /-- A look at earlier text whose width is not fixed. -/
  variableBehind : Bool := false
  hasRepetition : Bool := false

/-- A step of the reader. -/
abbrev Reader := StateT Progress (Except Refusal)

namespace Reader

/-- Refuses the text. -/
def malformed {α : Type} : Reader α :=
  throw .malformed

/-- Removes the next token. A lone backslash is refused as soon as it comes next. -/
def advance : Reader Unit := do
  let progress ← get
  let rest := progress.tokens.drop 1
  if rest.head? == some .lone then malformed else set { progress with tokens := rest }

/-- The next token. -/
def peek : Reader (Option Token) := do
  return (← get).tokens.head?

/-- Takes the next token. -/
def take : Reader (Option Token) := do
  let token ← peek
  advance
  return token

/-- Takes the next token if it is the given character. -/
def accept (c : Char) : Reader Bool := do
  if (← peek) == some (.plain c) then
    advance
    return true
  else return false

/-- Takes the given character or refuses the text. -/
def expect (c : Char) : Reader Unit := do
  unless ← accept c do malformed

/-- Takes at most `limit` characters of a class. -/
def takeClass (holds : Char → Bool) : (limit : Nat) → Reader (List Char)
  | 0 => return []
  | limit + 1 => do
    match ← peek with
    | some (.plain c) =>
      if holds c then
        advance
        return c :: (← takeClass holds limit)
      else return []
    | _ => return []

/-- Takes all characters of a class. -/
def takeWhole (holds : Char → Bool) : Reader (List Char) := do
  takeClass holds (← get).tokens.length

/-- Takes a name up to a terminator; the name must not be empty. -/
def takeName (terminator : Char) : (fuel : Nat) → (taken : List Char) → Reader (List Char)
  | 0, _ => malformed
  | fuel + 1, taken => do
    match ← take with
    | none => malformed
    | some (.plain c) =>
      if c == terminator then
        if taken.isEmpty then malformed else return taken
      else takeName terminator fuel (taken ++ [c])
    | some (.escape c) => takeName terminator fuel (taken ++ ['\\', c])
    | some .lone => malformed

end Reader

open Reader

def isHexDigit (c : Char) : Bool :=
  c.isDigit || ('a' ≤ c && c ≤ 'f') || ('A' ≤ c && c ≤ 'F')

def isOctalDigit (c : Char) : Bool :=
  '0' ≤ c && c ≤ '7'

/-- The value of a digit in a base up to sixteen. -/
def hexValue (c : Char) : Nat :=
  if c.isDigit then c.toNat - '0'.toNat
  else if 'a' ≤ c then c.toNat - 'a'.toNat + 10
  else c.toNat - 'A'.toNat + 10

/-- The number written by digits of a base. -/
def numberIn (base : Nat) (digits : List Char) : Nat :=
  digits.foldl (fun total c => base * total + hexValue c) 0

/-- The greatest code that an octal escape may name. -/
def octalLimit : Nat := 0o377

/-- The control characters with an escape letter. -/
def controlEscape? : Char → Option Nat
  | 'a' => some 7
  | 'f' => some 12
  | 'n' => some 10
  | 'r' => some 13
  | 't' => some 9
  | 'v' => some 11
  | '\\' => some 92
  | _ => none

/-- The class named by an escape letter. -/
def classEscape? (modes : Modes) : Char → Option SetItem
  | 'd' => some (.named .digit modes.ascii false)
  | 'D' => some (.named .digit modes.ascii true)
  | 's' => some (.named .blank modes.ascii false)
  | 'S' => some (.named .blank modes.ascii true)
  | 'w' => some (.named .word modes.ascii false)
  | 'W' => some (.named .word modes.ascii true)
  | _ => none

/-- Reads exactly `count` hexadecimal digits. -/
def readHex (count : Nat) : Reader Nat := do
  let digits ← takeClass isHexDigit count
  if digits.length == count then return numberIn 16 digits else malformed

/-- Reads the rest of an escape that names one character by its code; `none` if the letter begins
no such escape. -/
def readCodeEscape? (letter : Char) : Reader (Option Nat) := do
  match letter with
  | 'x' => return some (← readHex 2)
  | 'u' => return some (← readHex 4)
  | 'U' =>
    let code ← readHex 8
    if code < 0x110000 then return some code else malformed
  | _ => return none

/-- A backslash with a character that has no meaning of its own stands for that character, unless
it is an ASCII letter or digit. -/
def readPlainEscape (c : Char) : Reader Nat := do
  if c.isAlphanum then malformed else return c.toNat

/-- Reads the escape of one character, or of a class, inside a set. -/
def readSetEscape (modes : Modes) (c : Char) : Reader SetItem := do
  if c == 'b' then return .range 8 8
  else if let some code := controlEscape? c then return .range code code
  else if let some item := classEscape? modes c then return item
  else if let some code ← readCodeEscape? c then return .range code code
  else if isOctalDigit c then
    let code := numberIn 8 (c :: (← takeClass isOctalDigit 2))
    if code ≤ octalLimit then return .range code code else malformed
  else
    let code ← readPlainEscape c
    return .range code code

/-- The code of a set item that is a single character. -/
def SetItem.single? : SetItem → Option Nat
  | .range first last => if first = last then some first else none
  | .named .. => none

/-- Reads one member of a set that begins with the given token. -/
def readSetMember (modes : Modes) : Token → Reader SetItem
  | .plain c => return .range c.toNat c.toNat
  | .escape c => readSetEscape modes c
  | .lone => malformed

/-- Reads the members of a set up to its closing bracket, which is itself a member if it comes
first. -/
def readSetItems (modes : Modes) : (fuel : Nat) → List SetItem → Reader (List SetItem)
  | 0, _ => malformed
  | fuel + 1, items => do
    match ← take with
    | none => malformed
    | some token =>
      if token == .plain ']' && !items.isEmpty then return items
      else
        let item ← readSetMember modes token
        if ← accept '-' then
          match ← take with
          | none => malformed
          | some (.plain ']') => return items ++ [item, .range 45 45]
          | some last =>
            let upper ← readSetMember modes last
            match item.single?, upper.single? with
            | some first, some last =>
              if last < first then malformed
              else readSetItems modes fuel (items ++ [.range first last])
            | _, _ => malformed
        else readSetItems modes fuel (items ++ [item])

/-- Reads a set behind its opening bracket. -/
def readSet (modes : Modes) : Reader CharSet := do
  let complement ← accept '^'
  let items ← readSetItems modes ((← get).tokens.length + 1) []
  return { complement, items, folding := modes.folding }

/-- What can be repeated, and what cannot. -/
inductive ItemForm where
  | anchor
  | repetition
  | other
  deriving DecidableEq, Repr

/-- A part of a sequence. -/
structure Item where
  form : ItemForm
  node : Node

/-- The test of a single character. -/
def charItem (modes : Modes) (code : Nat) : Item :=
  ⟨.other, .char ⟨false, [.range code code], modes.folding⟩⟩

/-- The node of parts in a row. -/
def sequenceNode (items : List Item) : Node :=
  match items with
  | [] => .empty
  | [item] => item.node
  | item :: rest => .seq item.node (sequenceNode rest)

/-- The widths of the groups that are closed. -/
def Progress.widthOf (progress : Progress) (index : Nat) : Width :=
  (progress.groups[index]?.join).getD ⟨0, 0⟩

/-- Whether a group is there and closed. -/
def Progress.isClosed (progress : Progress) (index : Nat) : Bool :=
  (progress.groups[index]?.join).isSome

/-- Refuses a reference from within a look at earlier text to a group that is open or that began
inside that look. -/
def checkBehind (index : Nat) : Reader Unit := do
  let progress ← get
  match progress.behindLimit with
  | none => return ()
  | some limit => if !progress.isClosed index || limit ≤ index then malformed

/-- Reads a reference to a closed group. -/
def readReference (modes : Modes) (index : Nat) : Reader Item := do
  unless (← get).isClosed index do malformed
  checkBehind index
  return ⟨.other, .reference index modes.folding⟩

/-- Reads an escape that begins with a digit other than zero: three octal digits name a character,
anything else a group. -/
def readDigitEscape (modes : Modes) (first : Char) : Reader Item := do
  match ← takeClass Char.isDigit 1 with
  | [second] =>
    if isOctalDigit first && isOctalDigit second then
      match ← takeClass isOctalDigit 1 with
      | [third] =>
        let code := numberIn 8 [first, second, third]
        if code ≤ octalLimit then return charItem modes code else malformed
      | _ => readReference modes (numberIn 10 [first, second])
    else readReference modes (numberIn 10 [first, second])
  | _ => readReference modes (numberIn 10 [first])

/-- Reads an escape outside of sets. -/
def readEscape (modes : Modes) (c : Char) : Reader Item := do
  match c with
  | 'A' => return ⟨.anchor, .anchor .textStart⟩
  | 'Z' => return ⟨.anchor, .anchor .textEnd⟩
  | 'b' => return ⟨.anchor, .anchor (.wordEdge modes.ascii)⟩
  | 'B' => return ⟨.anchor, .anchor (.noWordEdge modes.ascii)⟩
  | _ =>
    if let some item := classEscape? modes c then
      return ⟨.other, .char ⟨false, [item], modes.folding⟩⟩
    else if let some code := controlEscape? c then return charItem modes code
    else if let some code ← readCodeEscape? c then return charItem modes code
    else if c == '0' then
      return charItem modes (numberIn 8 (← takeClass isOctalDigit 2))
    else if c.isDigit then readDigitEscape modes c
    else return charItem modes (← readPlainEscape c)

/-- Counts from here on are refused. -/
def countLimit : Nat := 4294967295

/-- The count that digits stand for; no digits stand for 0. -/
def readCount (digits : List Char) : Reader Nat :=
  if Numeral.digitLimit < digits.length then throw (.countTooLong digits.length)
  else if countLimit ≤ numberIn 10 digits then throw .repetitionTooLarge
  else return numberIn 10 digits

/-- The bounds of a repetition. -/
structure Bounds where
  least : Nat
  most : Option Nat

/-- Reads the bounds behind an opening brace; `none` if the brace stands for itself, and then no
token has been taken. -/
def readBounds? : Reader (Option Bounds) := do
  if (← peek) == some (.plain '}') then return none
  else
    let start ← get
    let low ← takeWhole Char.isDigit
    let high ← if ← accept ',' then takeWhole Char.isDigit else pure low
    if !(← accept '}') then
      set start
      return none
    else
      let least ← readCount low
      if high.isEmpty then return some ⟨least, none⟩
      else
        let most ← readCount high
        if most < least then malformed else return some ⟨least, some most⟩

/-- Reads the mark that says how a repetition prefers its counts. -/
def readGreed : Reader Greed := do
  if ← accept '?' then return .lazy
  else if ← accept '+' then return .possessive
  else return .greedy

/-- Replaces the last item by its repetition. -/
def repeatLast (items : List Item) (bounds : Bounds) : Reader (List Item) := do
  match items.getLast? with
  | none => malformed
  | some item =>
    if item.form != .other then malformed
    else
      let greed ← readGreed
      modify fun progress => { progress with hasRepetition := true }
      let node := Node.repeated greed bounds.least bounds.most item.node
      return items.dropLast ++ [⟨.repetition, node⟩]

/-- Opens a group and gives its number. -/
def openGroup (name : Option String) : Reader Nat := do
  let progress ← get
  let index := progress.groups.length
  let names ← match name with
    | none => pure progress.names
    | some name =>
      if progress.names.any (·.1 == name) then malformed
      else pure (progress.names ++ [(name, index)])
  set { progress with groups := progress.groups ++ [none], names }
  return index

/-- Closes a group, whose width is then known. -/
def closeGroup (index : Nat) (body : Node) : Reader Unit := do
  modify fun progress =>
    { progress with groups := progress.groups.set index (some (body.width progress.widthOf)) }

/-- The group of a name. -/
def groupNamed (name : List Char) : Reader Nat := do
  match (← get).names.find? (·.1 == String.ofList name) with
  | some (_, index) => return index
  | none => malformed

/-- Reads the letters of modes to switch on, up to one of `)`, `-` and `:`. -/
def readAdded (fuel : Nat) (added : Modes) (letter : Char) : Reader (Modes × Char) := do
  match fuel, Modes.ofLetter? letter with
  | fuel + 1, some mode =>
    let added := added.union mode
    if mode.choosesScript && added.ascii && added.allScripts then malformed
    else
      match ← take with
      | some (.plain c) =>
        if c == ')' || c == '-' || c == ':' then return (added, c) else readAdded fuel added c
      | _ => malformed
  | _, _ => malformed

/-- Reads the letters of modes to switch off, up to a colon. -/
def readRemoved (fuel : Nat) (removed : Modes) (letter : Char) : Reader Modes := do
  match fuel, Modes.ofLetter? letter with
  | fuel + 1, some mode =>
    if mode.choosesScript then malformed
    else
      let removed := removed.union mode
      match ← take with
      | some (.plain ':') => return removed
      | some (.plain c) => readRemoved fuel removed c
      | _ => malformed
  | _, _ => malformed

/-- What the modes at the start of a group ask for. -/
inductive ModeChange where
  | whole (added : Modes)
  | inGroup (added removed : Modes)

/-- Reads modes from their first letter or dash on. -/
def readModes (first : Char) : Reader ModeChange := do
  let fuel := (← get).tokens.length + 1
  let (added, terminator) ← if first == '-' then pure ({}, '-') else readAdded fuel {} first
  if terminator == ')' then return .whole added
  else if added.template then malformed
  else if terminator == ':' then return .inGroup added {}
  else
    match ← take with
    | some (.plain c) =>
      let removed ← readRemoved fuel {} c
      if removed.template || removed.without added != removed then malformed
      else return .inGroup added removed
    | _ => malformed

/-- Passes over a comment up to its closing parenthesis. -/
def skipComment : (fuel : Nat) → Reader Unit
  | 0 => malformed
  | fuel + 1 => do
    match ← take with
    | none => malformed
    | some token => if token == .plain ')' then return () else skipComment fuel

/-- Passes over the rest of a line. -/
def skipLine : (fuel : Nat) → Reader Unit
  | 0 => return ()
  | fuel + 1 => do
    match ← take with
    | none => return ()
    | some token => if token == .plain '\n' then return () else skipLine fuel

/-- Groups have smaller numbers than this. -/
def groupLimit : Nat := 1073741823

/-- Reads the group that a condition asks for, by name or number. -/
def readCondition : Reader Nat := do
  let name ← takeName ')' ((← get).tokens.length + 1) []
  let index ←
    if FormEngine.Text.isIdentifier name then groupNamed name
    else
      match Numeral.readInt? (String.ofList name) with
      | some number =>
        if number ≤ 0 ∨ groupLimit ≤ number then malformed
        else
          modify fun progress => { progress with asked := number.toNat :: progress.asked }
          pure number.toNat
      | none => malformed
  checkBehind index
  return index

/-- A blank that verbose patterns may hold. -/
def isLayout (c : Char) : Bool :=
  c == ' ' || (9 ≤ c.toNat && c.toNat ≤ 13)

/-- The node of a look at the text before the place. Its width must be fixed, which is found out
at the end of the text. -/
def behindNode (negated : Bool) (body : Node) : Reader Node := do
  let progress ← get
  let width := body.width progress.widthOf
  if width.least ≠ width.greatest || countLimit < width.least then
    set { progress with variableBehind := true }
  return .behind negated width.least body

/-- Whether the modes in force are those of the whole pattern, which the pattern may still set. -/
inductive Level where
  | top (first : Bool)
  | inner
  deriving DecidableEq, Repr

/-- The modes in force at a level. -/
def modesAt (level : Level) (inherited : Modes) : Reader Modes := do
  match level with
  | .top _ => return (← get).modes
  | .inner => return inherited

mutual

/-- Reads alternatives up to a closing parenthesis or the end. -/
def readAlternatives (fuel : Nat) (level : Level) (inherited : Modes) : Reader Node := do
  match fuel with
  | 0 => malformed
  | fuel + 1 =>
    let items ← readItems fuel level inherited []
    if ← accept '|' then
      let others := match level with
        | .top _ => Level.top false
        | .inner => .inner
      let rest ← readAlternatives fuel others inherited
      return .alt (sequenceNode items) rest
    else return sequenceNode items

/-- Reads items up to a bar, a closing parenthesis or the end. -/
def readItems (fuel : Nat) (level : Level) (inherited : Modes) (items : List Item) :
    Reader (List Item) := do
  match fuel with
  | 0 => malformed
  | fuel + 1 =>
    match ← peek with
    | none => return items
    | some token =>
      if token == .plain '|' || token == .plain ')' then return items
      else
        advance
        let modes ← modesAt level inherited
        match token with
        | .lone => malformed
        | .escape c => readItems fuel level inherited (items ++ [← readEscape modes c])
        | .plain c =>
          if modes.verbose && isLayout c then readItems fuel level inherited items
          else if modes.verbose && c == '#' then
            skipLine ((← get).tokens.length + 1)
            readItems fuel level inherited items
          else
            let add (item : Item) := readItems fuel level inherited (items ++ [item])
            match c with
            | '[' => add ⟨.other, .char (← readSet modes)⟩
            | '.' =>
              let excluded := if modes.dotAll then [] else [SetItem.range 10 10]
              add ⟨.other, .char ⟨true, excluded, .exact⟩⟩
            | '^' => add ⟨.anchor, .anchor (if modes.multiLine then .lineStart else .textStart)⟩
            | '$' => add ⟨.anchor, .anchor (if modes.multiLine then .lineEnd else .lastLineEnd)⟩
            | '?' => readItems fuel level inherited (← repeatLast items ⟨0, some 1⟩)
            | '*' => readItems fuel level inherited (← repeatLast items ⟨0, none⟩)
            | '+' => readItems fuel level inherited (← repeatLast items ⟨1, none⟩)
            | '{' =>
              match ← readBounds? with
              | none => add (charItem modes c.toNat)
              | some bounds => readItems fuel level inherited (← repeatLast items bounds)
            | '(' =>
              let first := level == .top true && items.isEmpty
              readItems fuel level inherited (items ++ (← readGroup fuel first modes))
            | _ => add (charItem modes c.toNat)

/-- Reads the body of a group and its closing parenthesis. -/
def readBody (fuel : Nat) (modes : Modes) : Reader Node := do
  match fuel with
  | 0 => malformed
  | fuel + 1 =>
    let body ← readAlternatives fuel .inner modes
    expect ')'
    return body

/-- Reads a group that captures its match. -/
def readCapture (fuel : Nat) (modes : Modes) (name : Option String) : Reader (List Item) := do
  match fuel with
  | 0 => malformed
  | fuel + 1 =>
    let index ← openGroup name
    let body ← readBody fuel modes
    closeGroup index body
    return [⟨.other, .group index body⟩]

/-- Reads a look at the text before the place. -/
def readBehind (fuel : Nat) (modes : Modes) (negated : Bool) : Reader (List Item) := do
  match fuel with
  | 0 => malformed
  | fuel + 1 =>
    let outer := (← get).behindLimit
    if outer.isNone then
      modify fun progress => { progress with behindLimit := some progress.groups.length }
    let body ← readAlternatives fuel .inner modes
    if outer.isNone then modify fun progress => { progress with behindLimit := none }
    expect ')'
    return [⟨.other, ← behindNode negated body⟩]

/-- Reads a choice that depends on a group. -/
def readChoice (fuel : Nat) (modes : Modes) : Reader (List Item) := do
  match fuel with
  | 0 => malformed
  | fuel + 1 =>
    let index ← readCondition
    let present ← readItems fuel .inner modes []
    let absent ← if ← accept '|' then readItems fuel .inner modes [] else pure []
    expect ')'
    return [⟨.other, .ifGroup index (sequenceNode present) (sequenceNode absent)⟩]

/-- Reads a group behind its opening parenthesis. The items it adds are none for comments and for
modes of the whole pattern, which must come first. -/
def readGroup (fuel : Nat) (first : Bool) (modes : Modes) : Reader (List Item) := do
  match fuel with
  | 0 => malformed
  | fuel + 1 =>
    if !(← accept '?') then readCapture fuel modes none
    else
      match ← take with
      | some (.plain ':') => return [⟨.other, ← readBody fuel modes⟩]
      | some (.plain '>') => return [⟨.other, .atomic (← readBody fuel modes)⟩]
      | some (.plain '=') => return [⟨.other, .ahead false (← readBody fuel modes)⟩]
      | some (.plain '!') => return [⟨.other, .ahead true (← readBody fuel modes)⟩]
      | some (.plain '<') =>
        if ← accept '=' then readBehind fuel modes false
        else if ← accept '!' then readBehind fuel modes true
        else malformed
      | some (.plain '#') =>
        skipComment ((← get).tokens.length + 1)
        return []
      | some (.plain '(') => readChoice fuel modes
      | some (.plain 'P') =>
        let length := (← get).tokens.length + 1
        if ← accept '<' then
          let name ← takeName '>' length []
          if FormEngine.Text.isIdentifier name then
            readCapture fuel modes (some (String.ofList name))
          else malformed
        else if ← accept '=' then
          let name ← takeName ')' length []
          if FormEngine.Text.isIdentifier name then
            return [← readReference modes (← groupNamed name)]
          else malformed
        else malformed
      | some (.plain c) =>
        match ← readModes c with
        | .whole added =>
          if first then
            modify fun progress => { progress with modes := progress.modes.union added }
            return []
          else malformed
        | .inGroup added removed =>
          return [⟨.other, ← readBody fuel (modes.within added removed)⟩]
      | _ => malformed

end

/-- Reads a whole pattern. Faults that only the whole text shows come last. -/
def readPattern : Reader Node := do
  if (← peek) == some .lone then malformed
  let length := (← get).tokens.length
  let node ← readAlternatives (4 * length + 4) (.top true) {}
  let progress ← get
  if progress.modes.ascii && progress.modes.allScripts then throw .modesIncompatible
  else if !progress.tokens.isEmpty then malformed
  else if progress.asked.any (progress.groups.length ≤ ·) then malformed
  else if progress.variableBehind then malformed
  else if progress.modes.template && progress.hasRepetition then malformed
  else return node

/-- The pattern that a text stands for. -/
def compile (text : String) : Except Refusal Node :=
  (readPattern.run { tokens := tokenize text.toList }).map (·.1)

end FormEngine.Pattern
