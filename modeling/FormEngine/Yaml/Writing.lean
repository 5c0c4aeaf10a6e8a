import FormEngine.Number.Shortest
import FormEngine.Value.Text
import FormEngine.Yaml.Page
import FormEngine.Yaml.Tag

/-!
# Writing YAML

Maps and sequences are written as blocks, sequences in maps without further indentation, and empty
ones in brackets. A scalar is written plainly where it reads back as the same value, else in single
quotes, and in double quotes if it holds anything but ASCII text. Its tag is written only where the
text does not tell it.
-/

namespace FormEngine.Yaml

/-- Numbers as YAML writes them. An exponent follows a point. -/
def numberStyle : DecimalStyle :=
  { plainDecimal with
    loneDigitTail := ".0", nan := ".nan", infinity := ".inf", negativeInfinity := "-.inf" }

/-- A scalar: its tag and its text. -/
structure ScalarText where
  tag : Tag
  text : List Char

/-- The scalar of a value that has no parts. -/
def scalarOf? : Value → Option ScalarText
  | .null => some ⟨.null, "null".toList⟩
  | .bool value => some ⟨.bool, (if value then "true" else "false").toList⟩
  | .int value => some ⟨.int, (intText value).toList⟩
  | .float value => some ⟨.float, (numberStyle.text value).toList⟩
  | .str text => some ⟨.str, text.toList⟩
  | .date day => some ⟨.timestamp, Iso.dateText day⟩
  | .dateTime moment => some ⟨.timestamp, Iso.dateTimeText ' ' moment⟩
  | .collection .. | .map _ => none

/-- Whether a text has an adjacent pair with a property. -/
def hasPair (property : Char → Char → Bool) : List Char → Bool
  | a :: b :: rest => property a b || hasPair property (b :: rest)
  | _ => false

/-- Whether a text would be taken for something else than a plain scalar. -/
def looksLikeIndicator (text : List Char) : Bool :=
  ['-', '-', '-'].isPrefixOf text || ['.', '.', '.'].isPrefixOf text
    || (match text with
      | [] => false
      | first :: rest =>
        "#,[]\x7b\x7d&*!|>'\"%@\x60".toList.contains first
          || (first == '?' || first == ':' || first == '-') && endsWord rest.head?)
    || hasPair (fun a b => a == ':' && isSeparator b || isSeparator a && b == '#') text
    || text.getLast? == some ':'

/-- A line break that is written as one. -/
def isLineEnd (c : Char) : Bool :=
  c == '\n' || c == '\x85' || c == '\u2028' || c == '\u2029'

/-- Whether a text takes several lines. -/
def isMultiline (text : List Char) : Bool :=
  text.any isLineEnd

/-- Whether a text has a blank at one of its ends. -/
def hasOuterBlank (text : List Char) : Bool :=
  let isBlankEnd (c : Char) : Bool := c == ' ' || isLineEnd c
  text.head?.any isBlankEnd || text.getLast?.any isBlankEnd

/-- Whether a text can stand in single quotes: ASCII text without spaces next to line breaks. -/
def fitsSingleQuotes (text : List Char) : Bool :=
  (text.all fun c => c == '\n' || ' ' ≤ c && c ≤ '~')
    && !hasPair (fun a b => a == ' ' && isLineEnd b || isLineEnd a && b == ' ') text

/-- Whether a text can stand without quotes. -/
def fitsPlain (text : List Char) : Bool :=
  text.isEmpty
    || fitsSingleQuotes text && !isMultiline text && !hasOuterBlank text && !looksLikeIndicator text

/-- The styles of scalars. -/
inductive ScalarStyle where
  | plain
  | single
  | double
  deriving DecidableEq, Repr

/-- The style of a scalar. A key must not be empty without quotes or break in single quotes. -/
def ScalarText.style (scalar : ScalarText) (asKey : Bool) : ScalarStyle :=
  let text := scalar.text
  if plainTag (String.ofList text) = scalar.tag && fitsPlain text
      && !(asKey && (text.isEmpty || isMultiline text)) then .plain
  else if fitsSingleQuotes text && !(asKey && isMultiline text) then .single
  else .double

/-- Whether the tag of a scalar in a style has to be written. -/
def ScalarText.needsTag (scalar : ScalarText) (style : ScalarStyle) : Bool :=
  style != .plain && scalar.tag != .str

/-- Writes a scalar. -/
def writeScalar (scalar : ScalarText) (indent : Nat) (asKey : Bool) (page : Page) : Page :=
  let style := scalar.style asKey
  let page :=
    if scalar.needsTag style then page.indicator scalar.tag.shorthand.toList true else page
  match style with
  | .plain => page.plain indent (!asKey) scalar.text
  | .single => page.singleQuoted indent (!asKey) scalar.text
  | .double => page.doubleQuoted indent (!asKey) scalar.text

/-- The longest tag and text of a key that is marked by a colon only. -/
def keyWidth : Nat := 128

/-- Whether a key is marked by a colon only. -/
def isSimpleKey (key : Value) : Bool :=
  match scalarOf? key with
  | some scalar =>
    scalar.tag.shorthand.length + scalar.text.length < keyWidth && !scalar.text.isEmpty
      && !isMultiline scalar.text
  | none =>
    match key with
    | .collection _ items => items.isEmpty
    | .map entries => entries.isEmpty
    | _ => false

/-- How far blocks are indented. -/
def indentStep : Nat := 2

/-- Writes an empty sequence or map. -/
def writeEmpty (opening closing : Char) (page : Page) : Page :=
  (page.indicator [opening] true).indicator [closing] false

/-- The indentation of a sequence. In a map it needs none where the line holds a key already. -/
def sequenceIndent (indent : Nat) (inMap : Bool) (page : Page) : Nat :=
  if inMap && !page.inIndentation then indent else indent + indentStep

/-- Writes a value that has no parts. -/
def writeAtom (indent : Nat) (asKey : Bool) (value : Value) (page : Page) : Page :=
  match scalarOf? value with
  | some scalar => writeScalar scalar (indent + indentStep) asKey page
  | none => page

/-- Writes an item of a sequence. -/
def writeDashed (indent : Nat) (item : Page → Page) (page : Page) : Page :=
  item ((page.indentTo indent).blockIndicator '-')

/-- Writes an entry of a map. -/
def writeColon (indent : Nat) (simple : Bool) (key value : Page → Page) (page : Page) :
    Page :=
  let page := page.indentTo indent
  if simple then value ((key page).indicator [':'] false)
  else value (((key (page.blockIndicator '?')).indentTo indent).blockIndicator ':')

mutual

/-- Writes a value in a block with an indentation. -/
def writeValue (indent : Nat) (inMap asKey : Bool) : Value → Page → Page
  | .null, page => writeAtom indent asKey .null page
  | .bool value, page => writeAtom indent asKey (.bool value) page
  | .int value, page => writeAtom indent asKey (.int value) page
  | .float value, page => writeAtom indent asKey (.float value) page
  | .str text, page => writeAtom indent asKey (.str text) page
  | .date day, page => writeAtom indent asKey (.date day) page
  | .dateTime moment, page => writeAtom indent asKey (.dateTime moment) page
  | .collection shape items, page =>
    match shape with
    | .set =>
      let page := page.indicator Tag.set.shorthand.toList true
      if items.isEmpty then writeEmpty '\x7b' '\x7d' page
      else writeMembers (indent + indentStep) items page
    | .list | .tuple =>
      if items.isEmpty then writeEmpty '[' ']' page
      else writeItems (sequenceIndent indent inMap page) items page
  | .map entries, page =>
    if entries.isEmpty then writeEmpty '\x7b' '\x7d' page
    else writeEntries (indent + indentStep) entries page

/-- Writes items of a sequence. -/
def writeItems (indent : Nat) : List Value → Page → Page
  | [], page => page
  | item :: rest, page =>
    writeItems indent rest (writeDashed indent (writeValue indent false false item) page)

/-- Writes the items of a set as keys of nothing. -/
def writeMembers (indent : Nat) : List Value → Page → Page
  | [], page => page
  | item :: rest, page =>
    let simple := isSimpleKey item
    writeMembers indent rest
      (writeColon indent simple (writeValue indent true simple item)
        (writeAtom indent false .null) page)

/-- Writes entries of a map. -/
def writeEntries (indent : Nat) : List (Value × Value) → Page → Page
  | [], page => page
  | entry :: rest, page => writeEntries indent rest (writeEntry indent entry page)

/-- Writes an entry of a map. -/
def writeEntry (indent : Nat) : Value × Value → Page → Page
  | (key, value), page =>
    let simple := isSimpleKey key
    writeColon indent simple (writeValue indent true simple key)
      (writeValue indent true false value) page

end

/-- Writes a map as a document. -/
def write (entries : List (Value × Value)) : String :=
  let page :=
    if entries.isEmpty then writeEmpty '\x7b' '\x7d' {} else writeEntries 0 entries {}
  (page.indentTo 0).text

end FormEngine.Yaml
