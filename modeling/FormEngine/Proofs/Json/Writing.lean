import FormEngine.Json.Reading
import FormEngine.Json.Writing
import FormEngine.Proofs.Document.Tree
import FormEngine.Proofs.Sorting
import FormEngine.Proofs.Value.Spelling

/-!
# Trees are written in JSON

Writing fails on keys without an order and on values without a form in JSON. A tree has neither, so
it is written unless it holds an integer that is too long.
-/

namespace FormEngine.Json

theorem writeItems_eq_mapM (depth : Nat) (items : List Value) :
    writeItems depth items = items.mapM (writeAt depth) := by
  induction items with
  | nil => rfl
  | cons item rest inductionHypothesis =>
    rw [writeItems, inductionHypothesis, List.mapM_cons]

theorem writeEntries_eq_map (depth : Nat) (entries : List (Value × Value)) :
    writeEntries depth entries = entries.map fun entry => (entry.1, writeAt depth entry.2) := by
  induction entries with
  | nil => rfl
  | cons entry rest inductionHypothesis =>
    rw [writeEntries, inductionHypothesis, List.map_cons, writeEntry]

/-- Written entries with texts for keys are put in order. -/
theorem orderEntries_eq_ok {written : List (Value × Except Fault (List Char))}
    (texts : ∀ entry ∈ written, ∃ key, entry.1 = .str key)
    (each : ∀ entry ∈ written, ∃ text, entry.2 = .ok text) :
    ∃ lines, orderEntries written = .ok lines := by
  have compares : Sorting.Compares
      (fun left right : Value × Except Fault (List Char) => left.1.before right.1) written := by
    intro left leftIn right rightIn
    obtain ⟨leftKey, isLeft⟩ := texts left leftIn
    obtain ⟨rightKey, isRight⟩ := texts right rightIn
    exact ⟨leftKey < rightKey, by simp only [isLeft, isRight, Value.before]⟩
  obtain ⟨sorted, given, permuted⟩ := Sorting.sort_eq_ok compares
  obtain ⟨lines, joined⟩ : ∃ lines, (sorted.mapM fun entry => do
      return (← keyText entry.1) ++ ':' :: ' ' :: (← entry.2)) = .ok lines := by
    apply Result.exists_mapM_eq_ok
    intro entry member
    obtain ⟨key, isKey⟩ := texts entry (permuted.mem_iff.mp member)
    obtain ⟨text, isText⟩ := each entry (permuted.mem_iff.mp member)
    exact ⟨stringText key ++ ':' :: ' ' :: text, by simp [isKey, isText, keyText]⟩
  refine ⟨lines, ?_⟩
  simp only [orderEntries, given, Result.ok_bind]
  exact joined

/-- A tree is written at every depth if its integers are. -/
theorem writeAt_eq_ok {admitted : Double → Prop} {value : Value} (tree : value.IsTree admitted)
    (short : value.hasOverlong = false) (depth : Nat) :
    ∃ text, writeAt depth value = .ok text := by
  induction tree generalizing depth with
  | null => exact ⟨_, rfl⟩
  | bool value => exact ⟨_, rfl⟩
  | int value => exact ⟨_, by simp only [writeAt, Value.spell, short]; rfl⟩
  | float => exact ⟨_, rfl⟩
  | str text => exact ⟨_, rfl⟩
  | @list items _ inductionHypothesis =>
    rw [Value.hasOverlong, Value.anyOverlong_eq_any, List.any_eq_false] at short
    obtain ⟨lines, written⟩ := Result.exists_mapM_eq_ok fun item member =>
      inductionHypothesis item member (by simpa using short item member) (depth + 1)
    exact ⟨_, by simp only [writeAt, writeItems_eq_mapM, written]; rfl⟩
  | @map entries texts _ _ inductionHypothesis =>
    rw [Value.hasOverlong, Value.anyEntryOverlong_eq_any, List.any_eq_false] at short
    obtain ⟨lines, ordered⟩ : ∃ lines, orderEntries (writeEntries (depth + 1) _) = .ok lines := by
      apply orderEntries_eq_ok
      · intro written member
        rw [writeEntries_eq_map] at member
        obtain ⟨entry, inEntries, rfl⟩ := List.mem_map.mp member
        exact texts entry inEntries
      · intro written member
        rw [writeEntries_eq_map] at member
        obtain ⟨entry, inEntries, rfl⟩ := List.mem_map.mp member
        have shortParts := short entry inEntries
        rw [Bool.or_eq_true, not_or, Bool.not_eq_true, Bool.not_eq_true] at shortParts
        exact inductionHypothesis entry inEntries shortParts.2 (depth + 1)
    exact ⟨_, by simp only [writeAt, ordered]; rfl⟩

/-- A tree without overlong integers is written. -/
theorem write_eq_ok {admitted : Double → Prop} {value : Value} (tree : value.IsTree admitted)
    (short : value.hasOverlong = false) : ∃ text, write value = .ok text := by
  obtain ⟨text, written⟩ := writeAt_eq_ok tree short 0
  exact ⟨String.ofList text, by rw [write, written]; rfl⟩

/-- What is read from the characters of a value is read from its text. -/
theorem read_of_readChars {value read : Value}
    (evaluated : (writeAt 0 value).toOption.bind readChars = some read) :
    ∃ text, write value = .ok text ∧ Json.read text = some read := by
  cases written : writeAt 0 value with
  | error fault =>
    rw [written] at evaluated
    cases evaluated
  | ok chars =>
    rw [written] at evaluated
    refine ⟨String.ofList chars, by rw [write, written]; rfl, ?_⟩
    rw [Json.read, String.toList_ofList]
    exact evaluated

end FormEngine.Json
