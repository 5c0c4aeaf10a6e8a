import FormEngine.Table

/-!
# Entries of tables

What entering a value makes of the entries of a table, and what is found under a key.
-/

namespace FormEngine.Table

variable {α : Type}

/-- What is in a table after an insertion was inserted or was there before. -/
theorem mem_insertEntry {key : String} {value : α} {entries : List (String × α)}
    {entry : String × α} (member : entry ∈ insertEntry key value entries) :
    entry = (key, value) ∨ entry ∈ entries := by
  induction entries with
  | nil => exact .inl (List.mem_singleton.mp member)
  | cons first rest inductionHypothesis =>
    obtain ⟨other, old⟩ := first
    unfold insertEntry at member
    split at member
    · rcases List.mem_cons.mp member with inserted | later
      · exact .inl inserted
      · exact .inr (.tail _ later)
    · rcases List.mem_cons.mp member with same | later
      · exact .inr (same ▸ .head _)
      · exact (inductionHypothesis later).imp_right (.tail _)

/-- A key of a table after an insertion is the one inserted or was there before. -/
theorem mem_keys_insert {table : Table α} {key other : String} {value : α}
    (member : other ∈ (table.insert key value).keys) : other = key ∨ other ∈ table.keys := by
  obtain ⟨entry, inEntries, rfl⟩ := List.mem_map.mp member
  rcases mem_insertEntry inEntries with rfl | before
  · exact .inl rfl
  · exact .inr (List.mem_map_of_mem before)

/-- Erasing takes away the one key and no other. -/
@[simp] theorem mem_keys_erase {table : Table α} {key other : String} :
    other ∈ (table.erase key).keys ↔ other ∈ table.keys ∧ other ≠ key := by
  simp only [keys, erase, List.mem_map, List.mem_filter]
  constructor
  · rintro ⟨entry, ⟨member, different⟩, rfl⟩
    exact ⟨⟨entry, member, rfl⟩, by simpa using different⟩
  · rintro ⟨⟨entry, member, rfl⟩, different⟩
    exact ⟨entry, ⟨member, by simpa using different⟩, rfl⟩

/-- A value under a key is in the entries. -/
theorem mem_entries_of_get? {table : Table α} {key : String} {value : α}
    (found : table.get? key = some value) : (key, value) ∈ table.entries := by
  obtain ⟨⟨other, _⟩, isFound, rfl⟩ := Option.map_eq_some_iff.mp found
  have same : other = key := by simpa using List.find?_some isFound
  exact same ▸ List.mem_of_find?_eq_some isFound

/-- The first entry of a key is the one that counts. -/
theorem get?_cons (key other : String) (value : α) (rest : List (String × α)) :
    get? ⟨(key, value) :: rest⟩ other = if key = other then some value else get? ⟨rest⟩ other := by
  by_cases same : key = other <;> simp [get?, same]

/-- Nothing is found under a key that is not there. -/
theorem get?_eq_none_iff {table : Table α} {key : String} :
    table.get? key = none ↔ key ∉ table.keys := by
  rw [get?, Option.map_eq_none_iff, List.find?_eq_none, keys, List.mem_map]
  constructor
  · rintro absent ⟨entry, member, isKey⟩
    exact absent entry member (by simpa using isKey)
  · intro absent entry member isKey
    exact absent ⟨entry, member, by simpa using isKey⟩

/-- What was inserted is found under its key, and under any other key what was there before. -/
theorem get?_insert (table : Table α) (key other : String) (value : α) :
    (table.insert key value).get? other = if key = other then some value else table.get? other := by
  obtain ⟨entries⟩ := table
  unfold insert
  induction entries with
  | nil => exact get?_cons key other value []
  | cons first rest inductionHypothesis =>
    obtain ⟨present, old⟩ := first
    unfold insertEntry
    split
    · next same =>
      rw [same, get?_cons, get?_cons]
      split <;> rfl
    · next different =>
      rw [get?_cons, get?_cons, inductionHypothesis]
      split
      · next found => rw [if_neg fun same => different (found.trans same.symm)]
      · rfl

/-- The items under a key, none if it is not there. -/
def listed (table : Table (List α)) (key : String) : List α :=
  (table.get? key).getD []

@[simp] theorem listed_empty (key : String) : ({} : Table (List α)).listed key = [] := rfl

/-- An item goes to the end of the list under its key, and other lists stay as they are. -/
theorem listed_push (table : Table (List α)) (key other : String) (item : α) :
    (table.push key item).listed other =
      table.listed other ++ if key = other then [item] else [] := by
  rw [push, listed, get?_insert]
  split
  · next same => simp [listed, same]
  · simp [listed]

/-- A table with one more item is not empty. -/
theorem push_ne_empty (table : Table (List α)) (key : String) (item : α) :
    table.push key item ≠ {} := by
  intro same
  have listed := listed_push table key key item
  simp [same] at listed

/-- A table has no keys exactly if it is empty. -/
theorem keys_eq_nil_iff {table : Table α} : table.keys = [] ↔ table = {} := by
  obtain ⟨entries⟩ := table
  simp [keys]

/-- The items of all lists of a table. -/
def items (table : Table (List α)) : List α :=
  table.entries.flatMap (·.2)

/-- An item of a table with one more item is that item or was there before. -/
theorem mem_items_push {table : Table (List α)} {key : String} {item other : α}
    (member : other ∈ (table.push key item).items) : other = item ∨ other ∈ table.items := by
  obtain ⟨entry, inEntries, inEntry⟩ := List.mem_flatMap.mp member
  rcases mem_insertEntry inEntries with rfl | before
  · rcases List.mem_append.mp inEntry with old | new
    · cases found : table.get? key with
      | none => simp [found] at old
      | some items =>
        rw [found] at old
        exact .inr (List.mem_flatMap.mpr ⟨_, mem_entries_of_get? found, old⟩)
    · exact .inl (List.mem_singleton.mp new)
  · exact .inr (List.mem_flatMap.mpr ⟨entry, before, inEntry⟩)

/-- A value under a new key goes behind the entries. -/
theorem entries_insert_of_not_mem {table : Table α} {key : String} {value : α}
    (new : key ∉ table.keys) : (table.insert key value).entries = table.entries ++ [(key, value)] := by
  obtain ⟨entries⟩ := table
  unfold insert
  induction entries with
  | nil => rfl
  | cons first rest inductionHypothesis =>
    obtain ⟨other, old⟩ := first
    simp only [keys, List.map_cons, List.mem_cons, not_or] at new inductionHypothesis
    simpa [insertEntry, Ne.symm new.1] using inductionHypothesis new.2

/-- In a table without repeated keys, what is found under a key is its entry. -/
theorem get?_eq_some_iff {table : Table α} (distinct : table.keys.Nodup) {key : String} {value : α} :
    table.get? key = some value ↔ (key, value) ∈ table.entries := by
  refine ⟨mem_entries_of_get?, fun member => ?_⟩
  obtain ⟨entries⟩ := table
  induction entries with
  | nil => cases member
  | cons first rest inductionHypothesis =>
    obtain ⟨other, old⟩ := first
    simp only [keys, List.map_cons, List.nodup_cons, List.mem_map, not_exists, not_and] at distinct
    rcases List.mem_cons.mp member with same | later
    · simp_all [get?]
    · have different : other ≠ key := fun same => distinct.1 _ later same.symm
      simpa [get?, different] using inductionHypothesis distinct.2 later

/-- What was entered under a key is erased with the key. -/
theorem erase_insert_same (table : Table α) (key : String) (value : α) :
    (table.insert key value).erase key = table.erase key := by
  obtain ⟨entries⟩ := table
  unfold insert erase
  induction entries with
  | nil => simp [insertEntry]
  | cons first rest inductionHypothesis =>
    obtain ⟨other, old⟩ := first
    simp only [mk.injEq] at inductionHypothesis ⊢
    unfold insertEntry
    split
    · next same => simp [same]
    · next different => simp [different, inductionHypothesis]

/-- What was entered under another key stays when a key is erased. -/
theorem erase_insert_of_ne (table : Table α) {key other : String} (different : other ≠ key)
    (value : α) : (table.insert other value).erase key = (table.erase key).insert other value := by
  obtain ⟨entries⟩ := table
  unfold insert erase
  induction entries with
  | nil => simp [insertEntry, different]
  | cons first rest inductionHypothesis =>
    obtain ⟨present, old⟩ := first
    simp only [mk.injEq] at inductionHypothesis ⊢
    by_cases same : present = other
    · simp [insertEntry, same, different]
    · by_cases isKey : present = key
      · simp [insertEntry, isKey, inductionHypothesis, Ne.symm different]
      · simp [insertEntry, same, isKey, inductionHypothesis]

/-- Under another key the same is found when a key is erased. -/
theorem get?_erase_of_ne (table : Table α) {key other : String} (different : other ≠ key) :
    (table.erase key).get? other = table.get? other := by
  simp only [get?, erase, List.find?_filter]
  congr 2
  funext entry
  by_cases same : entry.1 = other <;> simp [same, different]

/-- The table with items added to the lists under their keys, one by one. -/
def pushAll (table : Table (List α)) (items : List (String × α)) : Table (List α) :=
  items.foldl (fun table item => table.push item.1 item.2) table

/-- The items under a key are erased with the key, and all others are added as they would be. -/
theorem erase_pushAll (table : Table (List α)) (items : List (String × α)) (key : String) :
    (table.pushAll items).erase key = (table.erase key).pushAll (items.filter (·.1 != key)) := by
  unfold pushAll
  induction items generalizing table with
  | nil => rfl
  | cons item rest inductionHypothesis =>
    obtain ⟨other, value⟩ := item
    rw [List.foldl_cons, inductionHypothesis]
    by_cases same : other = key
    · simp [same, push, erase_insert_same]
    · simp [same, push, erase_insert_of_ne table same, get?_erase_of_ne table same]

end FormEngine.Table
