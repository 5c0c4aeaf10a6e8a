import FormEngine.Text.Quoted
import FormEngine.Yaml.Cursor

/-!
# YAML pages

A page takes indicators and scalars onto its lines. It keeps the column and the character of what
it wrote last, since both decide where spaces and line breaks go: scalars are folded behind the
best width, at single spaces.
-/

namespace FormEngine.Yaml

open FormEngine.Text (hexDigits)

/-- A page with the text so far. -/
structure Page where
  text : String := ""
  column : Nat := 0
  /-- Whether the text ends in a blank. -/
  afterBlank : Bool := true
  /-- Whether the line holds nothing but indentation and indicators of blocks. -/
  inIndentation : Bool := true

namespace Page

/-- The column behind which scalars are folded. -/
def bestWidth : Nat := 80

/-- Writes characters of a scalar. -/
def put (page : Page) (characters : List Char) : Page :=
  { page with
    text := page.text ++ String.ofList characters
    column := page.column + characters.length }

/-- Begins a new line. -/
def newLine (page : Page) : Page where
  text := page.text.push '\n'

/-- Goes to a column, on a new line unless the line has only been indented up to there. -/
def indentTo (page : Page) (indent : Nat) : Page :=
  let page :=
    if !page.inIndentation || page.column > indent
        || page.column == indent && !page.afterBlank then page.newLine
    else page
  if page.column < indent then
    { page.put (List.replicate (indent - page.column) ' ') with afterBlank := true }
  else page

/-- Says that what was written last is a word. -/
def endWord (page : Page) : Page :=
  { page with afterBlank := false, inIndentation := false }

/-- Writes an indicator. -/
def indicator (page : Page) (characters : List Char) (separate : Bool) : Page :=
  (page.put (if separate && !page.afterBlank then ' ' :: characters else characters)).endWord

/-- Writes an indicator of a block, which belongs to the indentation. -/
def blockIndicator (page : Page) (c : Char) : Page :=
  { page.indicator [c] true with inIndentation := page.inIndentation }

/-- A run of characters of one sort. -/
inductive Run where
  | spaces (count : Nat)
  | breaks (count : Nat)
  | word (characters : List Char)

/-- Puts a character in front of runs. -/
def Run.cons (c : Char) : List Run → List Run
  | .spaces count :: rest => if c == ' ' then .spaces (count + 1) :: rest
    else fresh c :: .spaces count :: rest
  | .breaks count :: rest => if c == '\n' then .breaks (count + 1) :: rest
    else fresh c :: .breaks count :: rest
  | .word characters :: rest =>
    if c == ' ' || c == '\n' then fresh c :: .word characters :: rest
    else .word (c :: characters) :: rest
  | [] => [fresh c]
where
  fresh (c : Char) : Run :=
    if c == ' ' then .spaces 1 else if c == '\n' then .breaks 1 else .word [c]

/-- The runs of a text. -/
def runs (text : List Char) : List Run :=
  text.foldr Run.cons []

/-- Folds at a single space, or writes spaces as they are. -/
def putSpaces (page : Page) (indent count : Nat) (mayFold : Bool) : Page :=
  if count == 1 && page.column > bestWidth && mayFold then page.indentTo indent
  else page.put (List.replicate count ' ')

/-- Writes a plain scalar of one line. -/
def putPlainRuns (indent : Nat) (fold : Bool) : List Run → Page → Page
  | [], page => page
  | .spaces count :: rest, page =>
    putPlainRuns indent fold rest (page.putSpaces indent count fold).endWord
  | .breaks _ :: rest, page => putPlainRuns indent fold rest page
  | .word characters :: rest, page => putPlainRuns indent fold rest (page.put characters)

/-- Writes a plain scalar. -/
def plain (page : Page) (indent : Nat) (fold : Bool) (text : List Char) : Page :=
  putPlainRuns indent fold (runs text) (page.indicator [] true)

/-- Writes line breaks inside quotes: one more than they are, since a single one would be read as
a space. -/
def putBreaks (page : Page) (indent count : Nat) : Page :=
  ((List.replicate (count + 1) ()).foldl (fun page _ => page.newLine) page).indentTo indent

/-- Writes the runs inside single quotes. Spaces at either end are not folded. -/
def putQuotedRuns (indent : Nat) (fold : Bool) : (first : Bool) → List Run → Page → Page
  | _, [], page => page
  | first, .spaces count :: rest, page =>
    putQuotedRuns indent fold false rest
      (page.putSpaces indent count (fold && !first && !rest.isEmpty))
  | _, .breaks count :: rest, page =>
    putQuotedRuns indent fold false rest (page.putBreaks indent count)
  | _, .word characters :: rest, page =>
    putQuotedRuns indent fold false rest
      (page.put (characters.flatMap fun c => if c == '\'' then ['\'', '\''] else [c]))

/-- Writes a scalar in single quotes. -/
def singleQuoted (page : Page) (indent : Nat) (fold : Bool) (text : List Char) : Page :=
  (putQuotedRuns indent fold true (runs text) (page.indicator ['\''] true)).indicator ['\''] false

/-- The letter that escapes a character. -/
def escapeLetter? : Char → Option Char
  | '\x00' => some '0'
  | '\x07' => some 'a'
  | '\x08' => some 'b'
  | '\t' => some 't'
  | '\n' => some 'n'
  | '\x0b' => some 'v'
  | '\x0c' => some 'f'
  | '\r' => some 'r'
  | '\x1b' => some 'e'
  | '"' => some '"'
  | '\\' => some '\\'
  | '\x85' => some 'N'
  | '\xa0' => some '_'
  | '\u2028' => some 'L'
  | '\u2029' => some 'P'
  | _ => none

/-- The escape of a character. -/
def escape (c : Char) : List Char :=
  match escapeLetter? c with
  | some letter => ['\\', letter]
  | none =>
    let digits (width : Nat) : List Char := (hexDigits width c.toNat).map Char.toUpper
    if c.toNat < 0x100 then '\\' :: 'x' :: digits 2
    else if c.toNat < 0x10000 then '\\' :: 'u' :: digits 4
    else '\\' :: 'U' :: digits 8

/-- Whether a character stands for itself inside double quotes. -/
def isBare (c : Char) : Bool :=
  ' ' ≤ c && c ≤ '~' && c != '"' && c != '\\'

/-- Folds inside double quotes: a backslash hides the line break, and another one keeps a space
that would begin the line. -/
def foldEscaped (page : Page) (indent : Nat) (next : Option Char) : Page :=
  let page := ((page.put ['\\']).indentTo indent).endWord
  if next == some ' ' then page.put ['\\'] else page

/-- Writes the characters inside double quotes. The pending ones, latest first, have not been
written yet. The first and the last character are never folded. -/
def putEscaped (indent : Nat) (fold first : Bool) (pending : List Char) :
    List Char → Page → Page
  | [], page => page.put pending.reverse
  | c :: rest, page =>
    let inside := fold && !first && !rest.isEmpty
    if isBare c then
      if inside && (c == ' ' || pending.isEmpty)
          && page.column + pending.length > bestWidth then
        putEscaped indent fold false [c] rest
          ((page.put pending.reverse).foldEscaped indent (some c))
      else putEscaped indent fold false (c :: pending) rest page
    else
      let page := page.put (pending.reverse ++ escape c)
      if inside && page.column > bestWidth + 1 then
        putEscaped indent fold false [] rest (page.foldEscaped indent rest.head?)
      else putEscaped indent fold false [] rest page

/-- Writes a scalar in double quotes. -/
def doubleQuoted (page : Page) (indent : Nat) (fold : Bool) (text : List Char) : Page :=
  (putEscaped indent fold true [] text (page.indicator ['"'] true)).indicator ['"'] false

end Page

end FormEngine.Yaml
