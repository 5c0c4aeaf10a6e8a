import FormEngine.Number.Numeral
import FormEngine.Text.Digit
import FormEngine.Text.Unit
import FormEngine.Value.Entries

/-!
# Reading JSON

A strict reader of JSON text: control characters have to be escaped in strings, nothing may follow
the value, and commas stand only between items. Beyond the standard it knows `NaN` and the
infinities. Of several entries of an object with one key the last counts.

A reader takes a value from the start of a text and gives the rest. The bound on its steps is the
length of the text, which suffices because every step takes at least one character.
-/

namespace FormEngine.Json

open Numeral (isDigit spanDigits)
open FormEngine.Text (ofDigits? isHighHalf isLowHalf joinHalves charOfCode)

/-- A reader of some part of a text. -/
abbrev Reader (α : Type) := List Char → Option (α × List Char)

/-- A character that may stand between tokens. -/
def isSpace (c : Char) : Bool :=
  c == ' ' || c == '\t' || c == '\n' || c == '\r'

/-- Skips what may stand between tokens. -/
def skipSpace (text : List Char) : List Char :=
  text.dropWhile isSpace

/-- A part of a string: a character, or an escaped unit of sixteen bits, which may be half of a
character. -/
inductive Piece where
  | char (c : Char)
  | unit (code : Nat)

/-- The character of an escape of one letter. -/
def escapedChar? : Char → Option Char
  | '"' => some '"'
  | '\\' => some '\\'
  | '/' => some '/'
  | 'b' => some '\x08'
  | 'f' => some '\x0c'
  | 'n' => some '\n'
  | 'r' => some '\r'
  | 't' => some '\t'
  | _ => none

/-- Reads the pieces of a string up to its closing quote. -/
def readPieces : Reader (List Piece)
  | '"' :: rest => some ([], rest)
  | '\\' :: 'u' :: a :: b :: c :: d :: rest => do
    let code ← ofDigits? 16 [a, b, c, d]
    let (pieces, rest) ← readPieces rest
    return (.unit code :: pieces, rest)
  | '\\' :: letter :: rest => do
    let c ← escapedChar? letter
    let (pieces, rest) ← readPieces rest
    return (.char c :: pieces, rest)
  | c :: rest =>
    if c.toNat < 0x20 || c == '\\' then none
    else do
      let (pieces, rest) ← readPieces rest
      return (.char c :: pieces, rest)
  | [] => none

/-- Joins halves to characters. -/
def joinPieces : List Piece → List Char
  | [] => []
  | .char c :: rest => c :: joinPieces rest
  | .unit high :: .unit low :: rest =>
    if isHighHalf high && isLowHalf low then joinHalves high low :: joinPieces rest
    else charOfCode high :: joinPieces (.unit low :: rest)
  | .unit code :: rest => charOfCode code :: joinPieces rest

/-- Reads a string behind its opening quote. -/
def readString : Reader String := fun text => do
  let (pieces, rest) ← readPieces text
  return (String.ofList (joinPieces pieces), rest)

/-- Takes a fraction: a point with digits behind it. -/
def takeFraction (text : List Char) : List Char × List Char :=
  match text with
  | '.' :: rest =>
    let (digits, rest) := spanDigits rest
    if digits.isEmpty then ([], text) else ('.' :: digits, rest)
  | _ => ([], text)

/-- Takes an exponent: its letter, perhaps a sign, and digits. -/
def takeExponent (text : List Char) : List Char × List Char :=
  match text with
  | letter :: rest =>
    if letter == 'e' || letter == 'E' then
      let (sign, rest) := match rest with
        | '-' :: rest => (['-'], rest)
        | '+' :: rest => (['+'], rest)
        | _ => ([], rest)
      let (digits, rest) := spanDigits rest
      if digits.isEmpty then ([], text) else (letter :: sign ++ digits, rest)
    else ([], text)
  | [] => ([], text)

/-- Takes the whole part of a number, which has no leading zeros. -/
def takeWhole : List Char → List Char × List Char
  | '0' :: rest => (['0'], rest)
  | text => spanDigits text

/-- Reads an unsigned number. Without a fraction and an exponent it is an integer. -/
def readUnsigned (negative : Bool) : Reader Value := fun text => do
  let (whole, rest) := takeWhole text
  let (fraction, rest) := takeFraction rest
  let (exponent, rest) := takeExponent rest
  if whole.isEmpty then none
  else if fraction.isEmpty && exponent.isEmpty then
    if whole.length > Numeral.digitLimit then none
    else
      let size : Int := Numeral.value whole
      return (.int (if negative then -size else size), rest)
  else
    return (.float (← Numeral.readUnsigned? negative (whole ++ fraction ++ exponent)), rest)

/-- Reads a value that has no parts. -/
def readAtom : Reader Value
  | 'n' :: 'u' :: 'l' :: 'l' :: rest => some (.null, rest)
  | 't' :: 'r' :: 'u' :: 'e' :: rest => some (.bool true, rest)
  | 'f' :: 'a' :: 'l' :: 's' :: 'e' :: rest => some (.bool false, rest)
  | 'N' :: 'a' :: 'N' :: rest => some (.float .nan, rest)
  | 'I' :: 'n' :: 'f' :: 'i' :: 'n' :: 'i' :: 't' :: 'y' :: rest =>
    some (.float (.infinite false), rest)
  | '-' :: 'I' :: 'n' :: 'f' :: 'i' :: 'n' :: 'i' :: 't' :: 'y' :: rest =>
    some (.float (.infinite true), rest)
  | '"' :: rest => do
    let (text, rest) ← readString rest
    return (.str text, rest)
  | '-' :: rest => readUnsigned true rest
  | text => readUnsigned false text

/-- Reads a key with the colon behind it. -/
def readKey : Reader String
  | '"' :: rest => do
    let (key, rest) ← readString rest
    match skipSpace rest with
    | ':' :: rest => some (key, skipSpace rest)
    | _ => none
  | _ => none

mutual

/-- Reads a value. -/
def readValue : (steps : Nat) → Reader Value
  | 0, _ => none
  | steps + 1, text =>
    match text with
    | '[' :: rest =>
      match skipSpace rest with
      | ']' :: rest => some (.list [], rest)
      | rest => do
        let (items, rest) ← readItems steps rest
        return (.list items, rest)
    | '{' :: rest =>
      match skipSpace rest with
      | '}' :: rest => some (.map [], rest)
      | rest => do
        let (entries, rest) ← readEntries steps rest
        return (.map (Entries.ofList entries), rest)
    | text => readAtom text

/-- Reads items up to the end of their array. -/
def readItems : (steps : Nat) → Reader (List Value)
  | 0, _ => none
  | steps + 1, text => do
    let (item, rest) ← readValue steps text
    match skipSpace rest with
    | ']' :: rest => return ([item], rest)
    | ',' :: rest =>
      let (items, rest) ← readItems steps (skipSpace rest)
      return (item :: items, rest)
    | _ => none

/-- Reads entries up to the end of their object. -/
def readEntries : (steps : Nat) → Reader (List (Value × Value))
  | 0, _ => none
  | steps + 1, text => do
    let (key, rest) ← readKey text
    let (value, rest) ← readValue steps rest
    match skipSpace rest with
    | '}' :: rest => return ([(.str key, value)], rest)
    | ',' :: rest =>
      let (entries, rest) ← readEntries steps (skipSpace rest)
      return ((.str key, value) :: entries, rest)
    | _ => none

end

/-- Reads characters that hold one value. -/
def readChars (text : List Char) : Option Value := do
  let characters := skipSpace text
  let (value, rest) ← readValue (characters.length + 1) characters
  if (skipSpace rest).isEmpty then some value else none

/-- Reads a text that holds one value. -/
def read (text : String) : Option Value :=
  readChars text.toList

end FormEngine.Json
