/-!
# Places in a YAML text

A cursor is what is left of a text, with the line and the column where it begins. Both decide what
a YAML text means, so every step keeps count of them.
-/

namespace FormEngine.Yaml

/-- A character that ends a line. -/
def isBreak (c : Char) : Bool :=
  c == '\n' || c == '\r' || c == '\x85' || c == '\u2028' || c == '\u2029'

/-- A space or a tab. -/
def isGap (c : Char) : Bool :=
  c == ' ' || c == '\t'

/-- A character that separates words. -/
def isSeparator (c : Char) : Bool :=
  isGap c || isBreak c

/-- Whether a word ends before what comes next; the text itself ends all words. -/
def endsWord (next : Option Char) : Bool :=
  next.all isSeparator

/-- A character of names of anchors, tag handles and directives. -/
def isNameChar (c : Char) : Bool :=
  c.isAlphanum || c == '-' || c == '_'

/-- A place in a text. -/
structure Cursor where
  rest : List Char
  index : Nat := 0
  line : Nat := 0
  column : Nat := 0

namespace Cursor

/-- The next character. -/
def peek (cursor : Cursor) : Option Char :=
  cursor.rest.head?

/-- The character some places further. -/
def peekAt (cursor : Cursor) (distance : Nat) : Option Char :=
  cursor.rest[distance]?

/-- The place behind the next character. A carriage return before a line feed does not end the
line, and a byte order mark has no width. -/
def advance (cursor : Cursor) : Cursor :=
  match cursor.rest with
  | [] => cursor
  | c :: rest =>
    if isBreak c && !(c == '\r' && rest.head? == some '\n') then
      { rest, index := cursor.index + 1, line := cursor.line + 1, column := 0 }
    else
      { rest
        index := cursor.index + 1
        line := cursor.line
        column := if c == '\ufeff' then cursor.column else cursor.column + 1 }

/-- The place a number of characters further. -/
def skip (cursor : Cursor) : (count : Nat) → Cursor
  | 0 => cursor
  | count + 1 => cursor.advance.skip count

/-- The characters ahead that have a property, and the place behind them. -/
def span (cursor : Cursor) (property : Char → Bool) : List Char × Cursor :=
  let taken := cursor.rest.takeWhile property
  (taken, cursor.skip taken.length)

/-- The place behind the characters ahead that have a property. -/
def skipWhile (cursor : Cursor) (property : Char → Bool) : Cursor :=
  (cursor.span property).2

/-- The place behind the spaces ahead. -/
def skipSpaces (cursor : Cursor) : Cursor :=
  cursor.skipWhile (· == ' ')

/-- The place behind the comment ahead, at the end of its line. -/
def skipComment (cursor : Cursor) : Cursor :=
  if cursor.peek == some '#' then cursor.skipWhile (!isBreak ·) else cursor

/-- The line break ahead, and the place behind it. The usual breaks all count as line feeds. -/
def lineBreak? (cursor : Cursor) : Option (Char × Cursor) :=
  match cursor.rest with
  | '\r' :: '\n' :: _ => some ('\n', cursor.skip 2)
  | c :: _ =>
    if c == '\u2028' || c == '\u2029' then some (c, cursor.advance)
    else if isBreak c then some ('\n', cursor.advance)
    else none
  | [] => none

/-- Whether a marker of three characters stands ahead as a word. -/
def hasWord (cursor : Cursor) (marker : Char) : Bool :=
  match cursor.rest with
  | a :: b :: c :: rest => a == marker && b == marker && c == marker && endsWord rest.head?
  | _ => false

/-- Whether a marker of the start or the end of a document stands ahead. -/
def atMarker (cursor : Cursor) : Bool :=
  cursor.hasWord '-' || cursor.hasWord '.'

end Cursor

end FormEngine.Yaml
