import FormEngine.Fault
import FormEngine.Value.Equality

/-!
# The order of values

Numbers are ordered by amount, texts by code points, dates and times by the calendar, and lists by
their first difference. Other pairs have no order, and asking for it is a fault.
-/

namespace FormEngine.Value

/-- The fault of comparing two kinds that have no order. -/
def unordered (left right : Value) : Fault :=
  .notOrdered left.kindName right.kindName

mutual

/-- Whether the first value comes before the second. -/
def before : Value → Value → Except Fault Bool
  | .str a, right => match right with
    | .str b => .ok (a < b)
    | _ => .error (unordered (.str a) right)
  | .date a, right => match right with
    | .date b => .ok (a.before b)
    | .dateTime _ => .error .dateWithTime
    | _ => .error (unordered (.date a) right)
  | .dateTime a, right => match right with
    | .dateTime b => match a.before? b with
      | some answer => .ok answer
      | none => .error .localWithOffset
    | .date _ => .error .dateWithTime
    | _ => .error (unordered (.dateTime a) right)
  | .collection shape items, right => match right with
    | .collection shape' items' =>
      if shape == shape' then
        match shape with
        | .list | .tuple => itemsBefore items items'
        | .set => .ok (items.length < items'.length && allAmong false items items')
      else .error (.notOrdered (kindName (.collection shape [])) (kindName (.collection shape' [])))
    | _ => .error (.notOrdered (kindName (.collection shape [])) right.kindName)
  | .null, right => .error (unordered .null right)
  | .map entries, right => .error (unordered (.map entries) right)
  | .bool a, right => pointBefore (.bool a) right
  | .int a, right => pointBefore (.int a) right
  | .float a, right => pointBefore (.float a) right
where
  pointBefore (left right : Value) : Except Fault Bool :=
    if right.isNumeric then
      match left.point?, right.point? with
      | some p, some q => .ok (p.before q)
      | _, _ => .ok false
    else .error (unordered left right)

/-- Compares two lists at their first difference; a list comes before its extensions. -/
def itemsBefore : List Value → List Value → Except Fault Bool
  | [], right => .ok (!right.isEmpty)
  | a :: left, right => match right with
    | [] => .ok false
    | b :: rest => if same a b then itemsBefore left rest else before a b

end

end FormEngine.Value
