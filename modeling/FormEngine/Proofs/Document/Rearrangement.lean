import FormEngine.Document.Writing
import Mathlib.Data.List.Nodup

/-!
# Rearranged documents

A map means the same whichever order its entries have. A rearrangement keeps a value but for that
order, at any depth. What is looked up in a rearranged map is what stood there before, itself
rearranged.
-/

namespace FormEngine

namespace Value

/-- A value without parts. -/
def IsPlain : Value → Prop
  | .collection .. | .map _ => False
  | _ => True

/-- A function on values that changes nothing but the order of the entries of maps. -/
structure IsRearrangement (rearrange : Value → Value) : Prop where
  plain : ∀ value : Value, value.IsPlain → rearrange value = value
  collection : ∀ (shape : Shape) (items : List Value),
    rearrange (.collection shape items) = .collection shape (items.map rearrange)
  map : ∀ entries : List (Value × Value), ∃ arranged : List (Value × Value),
    rearrange (.map entries) = .map arranged ∧
      arranged.Perm (entries.map fun entry => (entry.1, rearrange entry.2))

/-- Nothing rearranged is a rearrangement too. -/
theorem IsRearrangement.id : IsRearrangement id where
  plain := fun _ _ => rfl
  collection := fun shape items => by simp
  map := fun entries => ⟨entries, rfl, by simp⟩

namespace IsRearrangement

variable {rearrange : Value → Value} (rearranges : IsRearrangement rearrange)
include rearranges

/-- Texts stay. -/
theorem str (text : String) : rearrange (.str text) = .str text :=
  rearranges.plain _ trivial

/-- A value counts as much as before. -/
theorem truthy (value : Value) : (rearrange value).truthy = value.truthy := by
  cases value with
  | collection shape items => simp [rearranges.collection, Value.truthy]
  | map entries =>
    obtain ⟨arranged, same, permuted⟩ := rearranges.map entries
    have length := permuted.length_eq
    rw [List.length_map] at length
    cases arranged <;> cases entries <;> simp_all [Value.truthy]
  | _ =>
    rw [rearranges.plain]
    trivial

/-- A value is a text only if it was one. -/
theorem text? (value : Value) : (rearrange value).text? = value.text? := by
  cases value with
  | collection shape items => simp [rearranges.collection, Value.text?]
  | map entries =>
    obtain ⟨arranged, same, -⟩ := rearranges.map entries
    simp [same, Value.text?]
  | _ =>
    rw [rearranges.plain]
    trivial

/-- A value is null only if it was. -/
theorem ne_null {value : Value} (present : value ≠ .null) : rearrange value ≠ .null := by
  cases value with
  | collection shape items => simp [rearranges.collection]
  | map entries =>
    obtain ⟨arranged, same, -⟩ := rearranges.map entries
    simp [same]
  | _ =>
    rw [rearranges.plain]
    · exact present
    · trivial

end IsRearrangement

mutual

/-- A value that can be a key holds no map, so it stays. -/
theorem IsRearrangement.keyable {rearrange : Value → Value}
    (rearranges : IsRearrangement rearrange) {value : Value}
    (keyable : value.unkeyable? = none) : rearrange value = value := by
  match value with
  | .collection .list items => cases keyable
  | .collection .set items => cases keyable
  | .collection .tuple items =>
    rw [rearranges.collection, rearranges.keyableItems keyable]
  | .map entries => cases keyable
  | .null | .bool _ | .int _ | .float _ | .str _ | .date _ | .dateTime _ =>
    exact rearranges.plain _ trivial

/-- So do the items of such a value. -/
theorem IsRearrangement.keyableItems {rearrange : Value → Value}
    (rearranges : IsRearrangement rearrange) {items : List Value}
    (keyable : firstUnkeyable? items = none) : items.map rearrange = items := by
  match items with
  | [] => rfl
  | item :: rest =>
    rw [firstUnkeyable?, Option.or_eq_none_iff] at keyable
    rw [List.map_cons, rearranges.keyable keyable.1, rearranges.keyableItems keyable.2]

end

end Value

/-- Where the keys of entries are distinct, every entry is found by its key. -/
theorem lookup_eq_some_of_mem {entries : List (Value × Value)} {key : String} {value : Value}
    (distinct : (entries.map (·.1)).Nodup) (member : (.str key, value) ∈ entries) :
    lookup key entries = some value := by
  induction entries with
  | nil => cases member
  | cons entry rest inductionHypothesis =>
    rw [List.map_cons, List.nodup_cons] at distinct
    rcases List.mem_cons.mp member with rfl | later
    · simp [lookup]
    · have found := inductionHypothesis distinct.2 later
      have other : entry.1 ≠ .str key := fun same =>
        distinct.1 (List.mem_map.mpr ⟨_, later, same.symm⟩)
      obtain ⟨entryKey, entryValue⟩ := entry
      cases entryKey with
      | str text =>
        have different : text ≠ key := fun same => other (by rw [same])
        simpa [lookup, different] using found
      | _ => simpa [lookup] using found

/-- A key that no entry has is not found. -/
theorem lookup_eq_none {entries : List (Value × Value)} {key : String}
    (absent : .str key ∉ entries.map (·.1)) : lookup key entries = none := by
  induction entries with
  | nil => rfl
  | cons entry rest inductionHypothesis =>
    rw [List.map_cons, List.mem_cons, not_or] at absent
    have restNone := inductionHypothesis absent.2
    obtain ⟨entryKey, entryValue⟩ := entry
    cases entryKey with
    | str text =>
      have different : text ≠ key := fun same => absent.1 (by rw [same])
      simpa [lookup, different] using restNone
    | _ => simpa [lookup] using restNone

/-- A rearranged record gives its parts rearranged, and nothing else. -/
theorem Value.IsRearrangement.record {rearrange : Value → Value}
    (rearranges : Value.IsRearrangement rearrange) (parts : List (String × Value))
    (distinct : (parts.map (·.1)).Nodup) :
    ∃ entries, rearrange (.record parts) = .map entries ∧
      (∀ part ∈ parts, lookup part.1 entries = some (rearrange part.2)) ∧
      ∀ key, key ∉ parts.map (·.1) → lookup key entries = none := by
  obtain ⟨arranged, same, permuted⟩ :=
    rearranges.map (parts.map fun part => (.str part.1, part.2))
  have keys : (arranged.map (·.1)).Perm ((parts.map (·.1)).map Value.str) := by
    simpa [Function.comp_def] using permuted.map (·.1)
  have arrangedDistinct : (arranged.map (·.1)).Nodup := by
    rw [keys.nodup_iff]
    exact distinct.map fun _ _ same => Value.str.inj same
  refine ⟨arranged, same, ?_, ?_⟩
  · intro part member
    apply lookup_eq_some_of_mem arrangedDistinct
    rw [permuted.mem_iff]
    simp only [List.map_map, List.mem_map]
    exact ⟨part, member, rfl⟩
  · intro key absent
    apply lookup_eq_none
    rw [keys.mem_iff, List.mem_map]
    rintro ⟨other, inParts, isKey⟩
    cases isKey
    exact absent inParts

end FormEngine
