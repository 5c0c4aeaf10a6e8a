/-!
# Sorting with an order that may be undefined

The sort is stable. It keeps the ascending or strictly descending run that the items begin with
and then inserts each further item by bisection, so which pair is compared first, and hence which
missing comparison is reported, does not depend on anything but the items.
-/

namespace FormEngine.Sorting

variable {α ε : Type}

/-- Extends a strictly descending run, given last item first, which is its ascending order. -/
def extendDescending (before : α → α → Except ε Bool) (last : α) (run : List α) :
    List α → Except ε (List α × List α)
  | [] => .ok (last :: run, [])
  | item :: rest => do
    if ← before item last then extendDescending before item (last :: run) rest
    else .ok (last :: run, item :: rest)

/-- Extends an ascending run, given last item first. -/
def extendAscending (before : α → α → Except ε Bool) (last : α) (run : List α) :
    List α → Except ε (List α × List α)
  | [] => .ok ((last :: run).reverse, [])
  | item :: rest => do
    if ← before item last then .ok ((last :: run).reverse, item :: rest)
    else extendAscending before item (last :: run) rest

/-- The run that the items begin with, in ascending order, and the items behind it. -/
def leadingRun (before : α → α → Except ε Bool) : List α → Except ε (List α × List α)
  | [] => .ok ([], [])
  | [item] => .ok ([item], [])
  | first :: second :: rest => do
    if ← before second first then extendDescending before second [first] rest
    else extendAscending before second [first] rest

/-- The place of an item in a sorted list, behind all items that it does not come before. -/
def bisect (before : α → α → Except ε Bool) (item : α) (sorted : Array α) (low high : Nat) :
    Except ε Nat := do
  if low < high then
    let middle := low + (high - low) / 2
    match sorted[middle]? with
    | none => .ok low
    | some other =>
      if ← before item other then bisect before item sorted low middle
      else bisect before item sorted (middle + 1) high
  else .ok low
termination_by high - low

/-- Inserts items one by one into a sorted list. -/
def insertAll (before : α → α → Except ε Bool) (sorted : List α) : List α → Except ε (List α)
  | [] => .ok sorted
  | item :: rest => do
    let place ← bisect before item sorted.toArray 0 sorted.length
    insertAll before (sorted.take place ++ item :: sorted.drop place) rest

/-- The items in ascending order, or the first comparison that is not defined. -/
def sort (before : α → α → Except ε Bool) (items : List α) : Except ε (List α) := do
  let (run, rest) ← leadingRun before items
  insertAll before run rest

end FormEngine.Sorting
