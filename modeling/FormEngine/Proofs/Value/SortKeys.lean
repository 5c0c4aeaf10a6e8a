import FormEngine.Proofs.Document.Rearrangement
import Mathlib.Data.List.Sort

/-!
# Maps with sorted keys

A text in JSON holds the entries of every map in ascending order of their keys, so that what is
read from it is the value that was written but for that order.
-/

namespace FormEngine.Value

/-- Whether a text is not greater than another one. Other keys stay where they are. -/
def keyAtMost : Value → Value → Bool
  | .str left, .str right => left ≤ right
  | _, _ => true

mutual

/-- The value with the entries of all maps in ascending order of their keys. -/
def sortKeys : Value → Value
  | .collection shape items => .collection shape (sortKeysOfItems items)
  | .map entries =>
    .map ((sortKeysOfEntries entries).insertionSort fun left right => keyAtMost left.1 right.1)
  | value => value

def sortKeysOfItems : List Value → List Value
  | [] => []
  | item :: rest => sortKeys item :: sortKeysOfItems rest

def sortKeysOfEntries : List (Value × Value) → List (Value × Value)
  | [] => []
  | entry :: rest => sortKeysOfEntry entry :: sortKeysOfEntries rest

def sortKeysOfEntry : Value × Value → Value × Value
  | (key, value) => (key, sortKeys value)

end

theorem sortKeysOfItems_eq_map (items : List Value) :
    sortKeysOfItems items = items.map sortKeys := by
  induction items with
  | nil => rfl
  | cons item rest inductionHypothesis =>
    rw [sortKeysOfItems, inductionHypothesis, List.map_cons]

theorem sortKeysOfEntries_eq_map (entries : List (Value × Value)) :
    sortKeysOfEntries entries = entries.map fun entry => (entry.1, sortKeys entry.2) := by
  induction entries with
  | nil => rfl
  | cons entry rest inductionHypothesis =>
    rw [sortKeysOfEntries, inductionHypothesis, List.map_cons, sortKeysOfEntry]

/-- Sorting keys changes nothing but the order of entries. -/
theorem isRearrangement_sortKeys : IsRearrangement sortKeys where
  plain := by
    intro value plain
    cases value with
    | collection shape items => exact plain.elim
    | map entries => exact plain.elim
    | _ => rfl
  collection shape items := by rw [sortKeys, sortKeysOfItems_eq_map]
  map entries := by
    refine ⟨_, rfl, ?_⟩
    rw [sortKeysOfEntries_eq_map]
    exact List.perm_insertionSort _ _

end FormEngine.Value
