import FormEngine.Proofs.Result
import FormEngine.Value.Spelling

/-!
# Which values have a text

A value has a text unless it is or holds an integer that is too long to be written.
-/

namespace FormEngine

namespace Value

/-- A text is spelled as it is. -/
@[simp] theorem spell_str (text : String) : (Value.str text).spell = .ok text := by
  simp [spell, hasOverlong, Value.text]

/-- The spelling of a value is its text. -/
theorem spell_eq_ok_iff {value : Value} {text : String} :
    value.spell = .ok text ↔ value.hasOverlong = false ∧ value.text = text := by
  unfold spell
  split
  next overlong => simp [overlong]
  next short => simp [short]

/-- A value is spelled unless it holds an overlong integer. -/
theorem spell_eq_error_iff {value : Value} {fault : Fault} :
    value.spell = .error fault ↔ value.hasOverlong = true ∧ fault = .integerUnwritten := by
  unfold spell
  split
  next overlong => simp [overlong, eq_comm]
  next short => simp [short]

/-- A value that holds an overlong integer is the only one that is not spelled. -/
theorem failsAs_spell_iff {holds : Fault → Prop} (value : Value) :
    Result.FailsAs holds value.spell ↔ value.hasOverlong = true ∧ holds .integerUnwritten := by
  unfold spell
  split
  next overlong => simp [overlong]
  next short => simp [short]

/-- Items hold an overlong integer if one of them does. -/
theorem anyOverlong_eq_any (items : List Value) : anyOverlong items = items.any hasOverlong := by
  induction items with
  | nil => rfl
  | cons item rest inductionHypothesis =>
    rw [anyOverlong, inductionHypothesis, List.any_cons]

/-- Entries hold an overlong integer if a key or a value does. -/
theorem anyEntryOverlong_eq_any (entries : List (Value × Value)) :
    anyEntryOverlong entries =
      entries.any fun entry => entry.1.hasOverlong || entry.2.hasOverlong := by
  induction entries with
  | nil => rfl
  | cons entry rest inductionHypothesis =>
    rw [anyEntryOverlong, inductionHypothesis, List.any_cons, entryOverlong]

/-- A collection holds no overlong integer exactly if its items hold none. -/
theorem hasOverlong_collection_eq_false_iff {shape : Shape} {items : List Value} :
    (Value.collection shape items).hasOverlong = false ↔
      ∀ item ∈ items, item.hasOverlong = false := by
  simp [hasOverlong, anyOverlong_eq_any]

/-- A map holds no overlong integer exactly if its keys and values hold none. -/
theorem hasOverlong_map_eq_false_iff {entries : List (Value × Value)} :
    (Value.map entries).hasOverlong = false ↔
      ∀ entry ∈ entries, entry.1.hasOverlong = false ∧ entry.2.hasOverlong = false := by
  simp [hasOverlong, anyEntryOverlong_eq_any]

/-- What holds an overlong integer counts, for zero is short. -/
theorem truthy_of_hasOverlong {value : Value} (overlong : value.hasOverlong = true) :
    value.truthy = true := by
  cases value with
  | int number =>
    have nonzero : number ≠ 0 := by
      rintro rfl
      exact absurd overlong (by decide)
    simpa [truthy] using nonzero
  | collection shape items =>
    cases items with
    | nil => cases overlong
    | cons item rest => rfl
  | map entries =>
    cases entries with
    | nil => cases overlong
    | cons entry rest => rfl
  | _ => cases overlong

end Value

namespace Fault

/-- A fault is told as it is if the value that it names has a text, and else as the want of one. -/
theorem told_of_named (fault : Fault) {value : Value} (named : fault.named? = some value) :
    fault.told = if value.hasOverlong then .integerUnwritten else fault := by
  simp only [told, named, Option.any_some]

end Fault

end FormEngine
