import FormEngine.Value.Basic

/-!
# Equality of values

Two relations are kept apart. Structural equality decides whether two values are the same data.
`same` is the looser equality of collections and keys: numbers and booleans are compared by
amount, points in time by instant, sets and maps without regard to order, and NaN equals nothing.
-/

namespace FormEngine.Value

mutual

def decideEq : (left right : Value) → Decidable (left = right)
  | .null, right => match right with
    | .null => isTrue rfl
    | .bool _ | .int _ | .float _ | .str _ | .date _ | .dateTime _ | .collection .. | .map _ =>
      isFalse (by intro h; cases h)
  | .bool a, right => match right with
    | .bool b => decidable_of_iff (a = b) (by simp)
    | .null | .int _ | .float _ | .str _ | .date _ | .dateTime _ | .collection .. | .map _ =>
      isFalse (by intro h; cases h)
  | .int a, right => match right with
    | .int b => decidable_of_iff (a = b) (by simp)
    | .null | .bool _ | .float _ | .str _ | .date _ | .dateTime _ | .collection .. | .map _ =>
      isFalse (by intro h; cases h)
  | .float a, right => match right with
    | .float b => decidable_of_iff (a = b) (by simp)
    | .null | .bool _ | .int _ | .str _ | .date _ | .dateTime _ | .collection .. | .map _ =>
      isFalse (by intro h; cases h)
  | .str a, right => match right with
    | .str b => decidable_of_iff (a = b) (by simp)
    | .null | .bool _ | .int _ | .float _ | .date _ | .dateTime _ | .collection .. | .map _ =>
      isFalse (by intro h; cases h)
  | .date a, right => match right with
    | .date b => decidable_of_iff (a = b) (by simp)
    | .null | .bool _ | .int _ | .float _ | .str _ | .dateTime _ | .collection .. | .map _ =>
      isFalse (by intro h; cases h)
  | .dateTime a, right => match right with
    | .dateTime b => decidable_of_iff (a = b) (by simp)
    | .null | .bool _ | .int _ | .float _ | .str _ | .date _ | .collection .. | .map _ =>
      isFalse (by intro h; cases h)
  | .collection shape items, right => match right with
    | .collection shape' items' =>
      match decEq shape shape', decideItemsEq items items' with
      | isTrue h, isTrue h' => isTrue (by rw [h, h'])
      | isFalse h, _ => isFalse (by intro e; cases e; exact h rfl)
      | _, isFalse h => isFalse (by intro e; cases e; exact h rfl)
    | .null | .bool _ | .int _ | .float _ | .str _ | .date _ | .dateTime _ | .map _ =>
      isFalse (by intro h; cases h)
  | .map entries, right => match right with
    | .map entries' =>
      match decideEntriesEq entries entries' with
      | isTrue h => isTrue (by rw [h])
      | isFalse h => isFalse (by intro e; cases e; exact h rfl)
    | .null | .bool _ | .int _ | .float _ | .str _ | .date _ | .dateTime _ | .collection .. =>
      isFalse (by intro h; cases h)

def decideItemsEq : (left right : List Value) → Decidable (left = right)
  | [], [] => isTrue rfl
  | [], _ :: _ => isFalse (by intro h; cases h)
  | _ :: _, [] => isFalse (by intro h; cases h)
  | a :: left, b :: right =>
    match decideEq a b, decideItemsEq left right with
    | isTrue h, isTrue h' => isTrue (by rw [h, h'])
    | isFalse h, _ => isFalse (by intro e; cases e; exact h rfl)
    | _, isFalse h => isFalse (by intro e; cases e; exact h rfl)

def decideEntriesEq : (left right : List (Value × Value)) → Decidable (left = right)
  | [], [] => isTrue rfl
  | [], _ :: _ => isFalse (by intro h; cases h)
  | _ :: _, [] => isFalse (by intro h; cases h)
  | a :: left, b :: right =>
    match decideEntryEq a b, decideEntriesEq left right with
    | isTrue h, isTrue h' => isTrue (by rw [h, h'])
    | isFalse h, _ => isFalse (by intro e; cases e; exact h rfl)
    | _, isFalse h => isFalse (by intro e; cases e; exact h rfl)

def decideEntryEq : (left right : Value × Value) → Decidable (left = right)
  | (a, b), (c, d) =>
    match decideEq a c, decideEq b d with
    | isTrue h, isTrue h' => isTrue (by rw [h, h'])
    | isFalse h, _ => isFalse (by intro e; cases e; exact h rfl)
    | _, isFalse h => isFalse (by intro e; cases e; exact h rfl)

end

instance : DecidableEq Value := decideEq

mutual

/-- Equality by amount, where it is said whether NaN equals NaN. A list never equals a tuple or a
set, and a date never equals a point in time. -/
def sameUpTo (nanSame : Bool) : Value → Value → Bool
  | .null, right => match right with
    | .null => true
    | _ => false
  | .str a, right => match right with
    | .str b => a == b
    | _ => false
  | .date a, right => match right with
    | .date b => a == b
    | _ => false
  | .dateTime a, right => match right with
    | .dateTime b => a.same b
    | _ => false
  | .collection shape items, right => match right with
    | .collection shape' items' =>
      shape == shape' && match shape with
        | .set => items.length == items'.length && allAmong nanSame items items'
        | .list | .tuple => sameItems nanSame items items'
    | _ => false
  | .map entries, right => match right with
    | .map entries' =>
      entries.length == entries'.length && allEntriesAmong nanSame entries entries'
    | _ => false
  | .bool a, right => sameNumber nanSame (.bool a) right
  | .int a, right => sameNumber nanSame (.int a) right
  | .float a, right => sameNumber nanSame (.float a) right
where
  sameNumber (nanSame : Bool) (left right : Value) : Bool :=
    match left.point?, right.point? with
    | some p, some q => p == q
    | none, none => nanSame && right.isNumeric
    | _, _ => false

/-- Item by item. -/
def sameItems (nanSame : Bool) : List Value → List Value → Bool
  | [], right => right.isEmpty
  | a :: left, right => match right with
    | [] => false
    | b :: rest => sameUpTo nanSame a b && sameItems nanSame left rest

/-- Every item of the first list equals some item of the second. -/
def allAmong (nanSame : Bool) : List Value → List Value → Bool
  | [], _ => true
  | a :: left, right => right.any (sameUpTo nanSame a) && allAmong nanSame left right

/-- Every entry of the first list equals some entry of the second. -/
def allEntriesAmong (nanSame : Bool) : List (Value × Value) → List (Value × Value) → Bool
  | [], _ => true
  | a :: left, right => right.any (sameEntry nanSame a) && allEntriesAmong nanSame left right

def sameEntry (nanSame : Bool) : Value × Value → Value × Value → Bool
  | (key, value), right => sameUpTo nanSame key right.1 && sameUpTo nanSame value right.2

end

/-- Equality by amount. NaN equals nothing. -/
def same (left right : Value) : Bool :=
  sameUpTo false left right

/-- Values without those that equal an earlier one. -/
def distinctItems (values : List Value) : List Value :=
  values.foldl (fun seen value => if seen.any (·.same value) then seen else seen ++ [value]) []

end FormEngine.Value
