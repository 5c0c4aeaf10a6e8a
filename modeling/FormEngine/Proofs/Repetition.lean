import FormEngine.Evaluation

/-!
# Leaving out repetitions

Lists lose their repetitions item by item: an item is left out if the items kept so far have it
already. Nothing is added that way, and of ids nothing is lost. Where no key is repeated, a key picks
out one item.
-/

namespace FormEngine

variable {α : Type}

/-- Keeping some items of a list adds none. -/
theorem mem_of_mem_foldl_unless (skip : List α → α → Bool) {items seen : List α} {item : α}
    (member : item ∈ items.foldl
      (fun seen item => if skip seen item then seen else seen ++ [item]) seen) :
    item ∈ seen ∨ item ∈ items := by
  induction items generalizing seen with
  | nil => exact .inl member
  | cons first rest inductionHypothesis =>
    rw [List.foldl_cons] at member
    rcases inductionHypothesis member with before | later
    · split at before
      · exact .inl before
      · rcases List.mem_append.mp before with earlier | new
        · exact .inl earlier
        · exact .inr (List.mem_singleton.mp new ▸ .head _)
    · exact .inr (.tail _ later)

/-- Values without repetitions are among the values. -/
theorem mem_of_mem_distinctItems {values : List Value} {value : Value}
    (member : value ∈ Value.distinctItems values) : value ∈ values := by
  simpa using mem_of_mem_foldl_unless (fun seen value => seen.any (Value.same · value)) member

/-- Ids that are kept stay kept, and the ids that come next are kept too. -/
theorem subset_foldl_unless_contains (ids seen : List String) :
    seen ⊆ ids.foldl (fun seen id => if seen.contains id then seen else seen ++ [id]) seen ∧
      ids ⊆ ids.foldl (fun seen id => if seen.contains id then seen else seen ++ [id]) seen := by
  induction ids generalizing seen with
  | nil => exact ⟨List.Subset.refl _, List.nil_subset _⟩
  | cons first rest inductionHypothesis =>
    rw [List.foldl_cons]
    obtain ⟨keeps, covers⟩ :=
      inductionHypothesis (if seen.contains first then seen else seen ++ [first])
    refine ⟨fun id member => keeps ?_, List.cons_subset.mpr ⟨keeps ?_, covers⟩⟩
    · split
      · exact member
      · exact List.mem_append_left _ member
    · split
      · next known => simpa using known
      · simp

/-- Ids without repetitions are the same ids. -/
@[simp] theorem mem_distinct {ids : List String} {id : String} : id ∈ distinct ids ↔ id ∈ ids := by
  constructor
  · intro member
    simpa using mem_of_mem_foldl_unless (fun seen id => seen.contains id) member
  · intro member
    exact (subset_foldl_unless_contains ids []).2 member

/-- Of items with distinct keys only one has the key of an item. -/
theorem filter_key_of_mem {key : α → String} {items : List α} (distinct : (items.map key).Nodup)
    {item : α} (member : item ∈ items) : items.filter (key · == key item) = [item] := by
  induction items with
  | nil => cases member
  | cons first rest inductionHypothesis =>
    rw [List.map_cons, List.nodup_cons] at distinct
    rcases List.mem_cons.mp member with rfl | later
    · have others : rest.filter (key · == key item) = [] := by
        rw [List.filter_eq_nil_iff]
        intro other isOther same
        exact distinct.1 (List.mem_map.mpr ⟨other, isOther, by simpa using same⟩)
      simp [others]
    · have different : key first ≠ key item := fun same =>
        distinct.1 (List.mem_map.mpr ⟨item, later, same.symm⟩)
      simpa [different] using inductionHypothesis distinct.2 later

end FormEngine
