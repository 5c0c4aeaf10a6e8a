/-!
# Tables

Maps from text keys that keep the order in which keys were first entered. Answers, error messages
and the findings of an analysis are tables.
-/

namespace FormEngine

/-- A map from text keys, in order of entry. -/
structure Table (α : Type) where
  entries : List (String × α) := []
  deriving DecidableEq, Repr

namespace Table

variable {α : Type}

instance : Inhabited (Table α) := ⟨{}⟩

/-- The entries with the value of a key replaced, or entered at the end. -/
def insertEntry (key : String) (value : α) : List (String × α) → List (String × α)
  | [] => [(key, value)]
  | (other, old) :: rest =>
    if other = key then (key, value) :: rest else (other, old) :: insertEntry key value rest

/-- The table with a value under a key. A key that is there keeps its place. -/
def insert (table : Table α) (key : String) (value : α) : Table α :=
  ⟨insertEntry key value table.entries⟩

/-- The value under a key. -/
def get? (table : Table α) (key : String) : Option α :=
  (table.entries.find? (·.1 == key)).map (·.2)

/-- The table without a key. -/
def erase (table : Table α) (key : String) : Table α :=
  ⟨table.entries.filter (·.1 != key)⟩

/-- The keys in order of entry. -/
def keys (table : Table α) : List String :=
  table.entries.map (·.1)

def isEmpty (table : Table α) : Bool :=
  table.entries.isEmpty

/-- The table of a list of entries; of entries with one key the last counts. -/
def ofList (entries : List (String × α)) : Table α :=
  entries.foldl (fun table entry => table.insert entry.1 entry.2) {}

/-- Adds an item to the list under a key. -/
def push (table : Table (List α)) (key : String) (item : α) : Table (List α) :=
  table.insert key ((table.get? key).getD [] ++ [item])

end Table

end FormEngine
