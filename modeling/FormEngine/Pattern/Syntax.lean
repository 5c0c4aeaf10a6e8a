import FormEngine.Text.Blank
import FormEngine.Text.CaseVariants
import FormEngine.Text.Digit
import FormEngine.Text.Word

/-!
# Patterns

The abstract form of a search pattern. All modes, such as whether case counts, are resolved into
the nodes they affect, so a node means the same wherever it stands.
-/

namespace FormEngine.Pattern

open FormEngine.Text

/-- Which characters have a case. -/
inductive Folding where
  /-- Case counts. -/
  | exact
  /-- Letters of all scripts match in either case. -/
  | anyCase
  /-- Letters of ASCII match in either case. -/
  | asciiCase
  deriving DecidableEq, Repr

/-- The named classes of characters. -/
inductive ClassName where
  | digit
  | blank
  | word
  deriving DecidableEq, Repr

namespace ClassName

/-- The members of a class, among all characters or in ASCII only. -/
def holds (name : ClassName) (ascii : Bool) (c : Char) : Bool :=
  match name with
  | .digit => if ascii then c.isDigit else isDecimalDigit c
  | .blank =>
    if ascii then c == ' ' || (9 ≤ c.toNat && c.toNat ≤ 13) else isBlank c
  | .word => if ascii then c.isAlphanum || c == '_' else isWordChar c

end ClassName

/-- A part of a character set. Codes may lie outside the characters and then match nothing. -/
inductive SetItem where
  | range (first last : Nat)
  | named (name : ClassName) (ascii complement : Bool)
  deriving DecidableEq, Repr

/-- A test of one character. -/
structure CharSet where
  complement : Bool
  items : List SetItem
  folding : Folding
  deriving DecidableEq, Repr

/-- The characters that count as one under a folding. -/
def Folding.variants (folding : Folding) (c : Char) : List Char :=
  match folding with
  | .exact => [c]
  | .anyCase => caseVariants c
  | .asciiCase => asciiCaseVariants c

/-- Whether a part of a set holds a character. -/
def SetItem.holds (folding : Folding) (c : Char) : SetItem → Bool
  | .range first last =>
    (folding.variants c).any fun variant => first ≤ variant.toNat && variant.toNat ≤ last
  | .named name ascii complement => name.holds ascii c != complement

/-- Whether a character passes the test. -/
def CharSet.holds (set : CharSet) (c : Char) : Bool :=
  set.items.any (·.holds set.folding c) != set.complement

/-- Conditions on a place in the text. -/
inductive Anchor where
  | textStart
  | lineStart
  | textEnd
  /-- The end of the text, or before a line feed that ends it. -/
  | lastLineEnd
  | lineEnd
  /-- Between a word and what is none. -/
  | wordEdge (ascii : Bool)
  | noWordEdge (ascii : Bool)
  deriving DecidableEq, Repr

/-- How a repetition chooses its count. -/
inductive Greed where
  /-- As often as possible, with fewer tried after a failure. -/
  | greedy
  /-- As seldom as possible, with more tried after a failure. -/
  | lazy
  /-- As often as possible, without a second try. -/
  | possessive
  deriving DecidableEq, Repr

/-- A pattern. -/
inductive Node where
  | empty
  | char (set : CharSet)
  | anchor (place : Anchor)
  | seq (first second : Node)
  | alt (first second : Node)
  | repeated (greed : Greed) (least : Nat) (most : Option Nat) (body : Node)
  | group (index : Nat) (body : Node)
  /-- The text that a group matched, once more. -/
  | reference (index : Nat) (folding : Folding)
  /-- The first pattern if a group has matched and the second one otherwise. -/
  | ifGroup (index : Nat) (present absent : Node)
  | ahead (negated : Bool) (body : Node)
  /-- A look at the text before the place; the body matches `width` characters. -/
  | behind (negated : Bool) (width : Nat) (body : Node)
  /-- A body that is not tried a second way. -/
  | atomic (body : Node)
  deriving DecidableEq, Repr

/-- The least and the greatest number of characters that a pattern matches. -/
structure Width where
  least : Nat
  greatest : Nat
  deriving DecidableEq, Repr

namespace Width

-- Powers are those of the core library, whatever algebra is in scope beside this module.
attribute [local instance (high)] instPowNat

/-- Widths from here on are not told apart. -/
def unbounded : Nat := 2 ^ (64 : Nat)

/-- The width of two patterns in a row. -/
def both (first second : Width) : Width :=
  ⟨min (first.least + second.least) unbounded, min (first.greatest + second.greatest) unbounded⟩

/-- The width of one of two patterns. -/
def either (first second : Width) : Width :=
  ⟨min first.least second.least, max first.greatest second.greatest⟩

/-- The width of a repeated pattern. -/
def times (width : Width) (least : Nat) (most : Option Nat) : Width :=
  ⟨min (width.least * least) unbounded,
    match most with
    | some count => min (width.greatest * count) unbounded
    | none => if width.greatest = 0 then 0 else unbounded⟩

end Width

/-- The width of a pattern, given the widths of the groups it refers to. -/
def Node.width (groups : Nat → Width) : Node → Width
  | .empty | .anchor _ | .ahead .. | .behind .. => ⟨0, 0⟩
  | .char _ => ⟨1, 1⟩
  | .seq first second => (first.width groups).both (second.width groups)
  | .alt first second => (first.width groups).either (second.width groups)
  | .repeated _ least most body => (body.width groups).times least most
  | .group _ body | .atomic body => body.width groups
  | .reference index _ => groups index
  | .ifGroup _ present absent => (present.width groups).either (absent.width groups)

end FormEngine.Pattern
