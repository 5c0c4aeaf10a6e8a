import FormEngine.Value.Equality

/-!
# Entries of maps

How the parts of a map are found and entered. Keys are told apart by amount, so that 1 and 1.0 are
one key.
-/

namespace FormEngine

/-- The entries of a map. -/
abbrev Entries := List (Value × Value)

namespace Entries

/-- The value of a text key, or null. -/
def part (entries : Entries) (key : String) : Value :=
  (lookup key entries).getD .null

/-- The value of a text key, or else of the older name of it, or null. -/
def partOrLegacy (entries : Entries) (key legacy : String) : Value :=
  ((lookup key entries).or (lookup legacy entries)).getD .null

/-- Whether a condition holds of the value of a text key; a missing key gives the default. -/
def flag (entries : Entries) (key : String) (default : Bool) : Bool :=
  ((lookup key entries).map Value.truthy).getD default

/-- Enters a value under a key. A key that is there keeps its place and its form. -/
def put (key value : Value) : Entries → Entries
  | [] => [(key, value)]
  | (other, old) :: rest =>
    if other.same key then (other, value) :: rest else (other, old) :: put key value rest

/-- The entries entered one after the other; of entries with one key the last counts. -/
def ofList (entries : List (Value × Value)) : Entries :=
  entries.foldl (fun entered entry => put entry.1 entry.2 entered) []

end Entries

end FormEngine
