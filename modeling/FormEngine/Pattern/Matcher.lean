import FormEngine.Pattern.Syntax

/-!
# Matching

A backtracking search. `run node place next` tries the ways in which `node` matches at `place`, in
order of preference, and answers with the first one from which `next` succeeds. The matcher is
structural in the pattern; only repetitions count steps, and the steps are bounded by the length of
the text because an optional repetition must not start twice at one place.
-/

namespace FormEngine.Pattern

open FormEngine.Text

/-- A place in the text, with what the groups have matched so far. -/
structure Place where
  /-- The text before the place, last character first. -/
  before : List Char
  after : List Char
  /-- The latest match of each group, latest first. -/
  captured : List (Nat × List Char)
  deriving DecidableEq, Repr

namespace Place

/-- The place at the start of a text. -/
def start (text : List Char) : Place := ⟨[], text, []⟩

/-- Characters before the place. -/
def offset (place : Place) : Nat := place.before.length

/-- The length of the whole text. -/
def extent (place : Place) : Nat := place.before.length + place.after.length

/-- What a group has matched. -/
def capture? (place : Place) (index : Nat) : Option (List Char) :=
  (place.captured.find? (·.1 == index)).map (·.2)

/-- The place after a character that passes the test. -/
def step? (set : CharSet) (place : Place) : Option Place :=
  match place.after with
  | [] => none
  | c :: rest =>
    if set.holds c then some { place with before := c :: place.before, after := rest } else none

/-- The place after a given text. -/
def skip? (folding : Folding) : List Char → Place → Option Place
  | [], place => some place
  | expected :: rest, place =>
    match place.after with
    | [] => none
    | c :: after =>
      let alike := match folding with
        | .exact => c == expected
        | .anyCase => lowerChar c == lowerChar expected
        | .asciiCase => c.toLower == expected.toLower
      if alike then skip? folding rest { place with before := c :: place.before, after } else none

/-- The place some characters earlier. -/
def back? (count : Nat) (place : Place) : Option Place :=
  if count ≤ place.before.length then
    some { place with
      before := place.before.drop count
      after := (place.before.take count).reverse ++ place.after }
  else none

/-- Whether a word begins or ends at the place. -/
def atWordEdge (ascii : Bool) (place : Place) : Bool :=
  let isWord (c : Option Char) : Bool := c.any (ClassName.word.holds ascii)
  isWord place.before.head? != isWord place.after.head?

/-- Whether the place meets a condition. In an empty text no place is at a word edge, and none is
away from one. -/
def meets (place : Place) : Anchor → Bool
  | .textStart => place.before.isEmpty
  | .lineStart => place.before.isEmpty || place.before.head? == some '\n'
  | .textEnd => place.after.isEmpty
  | .lastLineEnd => place.after.isEmpty || place.after == ['\n']
  | .lineEnd => place.after.isEmpty || place.after.head? == some '\n'
  | .wordEdge ascii => place.extent != 0 && place.atWordEdge ascii
  | .noWordEdge ascii => place.extent != 0 && !place.atWordEdge ascii

/-- Records the text between the place where a group was entered and this one as the match of the
group. -/
def record (place : Place) (index : Nat) (entry : Place) : Place :=
  let text := entry.after.take (place.offset - entry.offset)
  { place with captured := (index, text) :: place.captured }

end Place

/-- What is tried after a match. -/
abbrev Next := Place → Option Place

/-- Whether one more repetition is allowed. -/
def mayRepeat (most : Option Nat) (count : Nat) : Bool :=
  most.all (count < ·)

/-- Repeats as often as possible, then with fewer repetitions. `origin` is where the previous
optional repetition began. -/
def greedyLoop (body : Next → Next) (least : Nat) (most : Option Nat) (next : Next) :
    (fuel : Nat) → (count : Nat) → (origin : Option Nat) → Next
  | 0, _, _, _ => none
  | fuel + 1, count, origin, place =>
    if count < least then body (greedyLoop body least most next fuel (count + 1) origin) place
    else if mayRepeat most count && origin != some place.offset then
      (body (greedyLoop body least most next fuel (count + 1) (some place.offset)) place).or
        (next place)
    else next place

/-- Repeats as seldom as possible, then with more repetitions. -/
def lazyLoop (body : Next → Next) (least : Nat) (most : Option Nat) (next : Next) :
    (fuel : Nat) → (count : Nat) → (origin : Option Nat) → Next
  | 0, _, _, _ => none
  | fuel + 1, count, origin, place =>
    if count < least then body (lazyLoop body least most next fuel (count + 1) origin) place
    else
      (next place).or
        (if mayRepeat most count && origin != some place.offset then
          body (lazyLoop body least most next fuel (count + 1) (some place.offset)) place
        else none)

/-- Repeats as often as possible, each time the first way that matches. -/
def possessiveLoop (body : Next) (least : Nat) (most : Option Nat) :
    (fuel : Nat) → (count : Nat) → (origin : Option Nat) → Next
  | 0, _, _, _ => none
  | fuel + 1, count, origin, place =>
    if count < least then
      match body place with
      | some reached => possessiveLoop body least most fuel (count + 1) origin reached
      | none => none
    else if mayRepeat most count && origin != some place.offset then
      match body place with
      | some reached =>
        possessiveLoop body least most fuel (count + 1) (some place.offset) reached
      | none => some place
    else some place

/-- Steps that suffice for a repetition: the required ones, one for each place of the text, and
one that matches nothing. -/
def repetitionFuel (least : Nat) (place : Place) : Nat :=
  least + place.extent + 3

/-- Tries the ways in which a pattern matches, and answers with the first one from which the rest
succeeds. -/
def Node.run : Node → Next → Next
  | .empty, next, place => next place
  | .char set, next, place =>
    match place.step? set with
    | some reached => next reached
    | none => none
  | .anchor condition, next, place => if place.meets condition then next place else none
  | .seq first second, next, place => first.run (second.run next) place
  | .alt first second, next, place => (first.run next place).or (second.run next place)
  | .repeated .greedy least most body, next, place =>
    greedyLoop body.run least most next (repetitionFuel least place) 0 none place
  | .repeated .lazy least most body, next, place =>
    lazyLoop body.run least most next (repetitionFuel least place) 0 none place
  | .repeated .possessive least most body, next, place =>
    match possessiveLoop (body.run some) least most (repetitionFuel least place) 0 none place with
    | some reached => next reached
    | none => none
  | .group index body, next, place =>
    body.run (fun reached => next (reached.record index place)) place
  | .reference index folding, next, place =>
    match place.capture? index with
    | none => none
    | some text =>
      match place.skip? folding text with
      | some reached => next reached
      | none => none
  | .ifGroup index present absent, next, place =>
    if (place.capture? index).isSome then present.run next place else absent.run next place
  | .ahead negated body, next, place =>
    match body.run some place with
    | some reached => if negated then none else next { place with captured := reached.captured }
    | none => if negated then next place else none
  | .behind negated width body, next, place =>
    match (place.back? width).bind (body.run some) with
    | some reached => if negated then none else next { place with captured := reached.captured }
    | none => if negated then next place else none
  | .atomic body, next, place =>
    match body.run some place with
    | some reached => next reached
    | none => none

/-- Whether the pattern matches at the place. -/
def Node.matchesAt (node : Node) (place : Place) : Bool :=
  (node.run some place).isSome

/-- Whether the pattern matches at a place at or after the given one. -/
def Node.searchFrom (node : Node) (before : List Char) : List Char → Bool
  | [] => node.matchesAt ⟨before, [], []⟩
  | c :: rest => node.matchesAt ⟨before, c :: rest, []⟩ || node.searchFrom (c :: before) rest

/-- Whether the pattern matches somewhere in the text. -/
def Node.search (node : Node) (text : String) : Bool :=
  node.searchFrom [] text.toList

/-- Whether the pattern matches at the start of the text. -/
def Node.matchesStart (node : Node) (text : String) : Bool :=
  node.matchesAt (Place.start text.toList)

end FormEngine.Pattern
