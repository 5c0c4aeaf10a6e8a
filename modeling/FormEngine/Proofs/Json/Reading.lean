import FormEngine.Json.Reading
import FormEngine.Proofs.Document.Tree
import FormEngine.Proofs.Value.Spelling

/-!
# What is read from JSON is a tree

Texts in JSON stand for trees: an object has texts for keys, each of them once, for of several
entries with one key the last counts. The integers in them are short enough to be written.
-/

namespace FormEngine

/-- Texts are one key exactly if they are one text. -/
@[simp] theorem Value.same_str_iff {left right : String} :
    (Value.str left).same (.str right) = true ↔ left = right := by
  simp [Value.same, Value.sameUpTo]

namespace Entries

variable {admitted : Double → Prop} {entries : Entries} {key : String} {value : Value}

/-- Keys after a value was entered under a text: the keys before, and the text behind them if it was
not among them. -/
theorem keys_put (texts : ∀ entry ∈ entries, ∃ text, entry.1 = .str text) :
    (put (.str key) value entries).map (·.1) =
      if .str key ∈ entries.map (·.1) then entries.map (·.1)
      else entries.map (·.1) ++ [.str key] := by
  induction entries with
  | nil => rfl
  | cons entry rest inductionHypothesis =>
    obtain ⟨text, isText⟩ := texts entry (.head _)
    obtain ⟨other, old⟩ := entry
    subst isText
    have restKeys := inductionHypothesis fun entry member => texts entry (.tail _ member)
    by_cases same : text = key
    · simp [put, same]
    · have differs : key ≠ text := Ne.symm same
      simp only [put, Value.same_str_iff, same, if_false, List.map_cons, restKeys, List.mem_cons,
        Value.str.injEq, differs, false_or]
      split <;> rfl

/-- What keys and values have in common they still have after an entry of the kind was entered. -/
theorem forall_mem_put (keyHolds valueHolds : Value → Prop) {key : Value}
    (each : ∀ entry ∈ entries, keyHolds entry.1 ∧ valueHolds entry.2) (ofKey : keyHolds key)
    (ofValue : valueHolds value) :
    ∀ entry ∈ put key value entries, keyHolds entry.1 ∧ valueHolds entry.2 := by
  induction entries with
  | nil => simpa [put] using ⟨ofKey, ofValue⟩
  | cons first rest inductionHypothesis =>
    obtain ⟨ofFirst, ofRest⟩ := List.forall_mem_cons.mp each
    simp only [put]
    split
    · exact List.forall_mem_cons.mpr ⟨⟨ofFirst.1, ofValue⟩, ofRest⟩
    · exact List.forall_mem_cons.mpr ⟨ofFirst, inductionHypothesis ofRest⟩

/-- What the keys and the values of entries have in common, those of the map of them have. -/
theorem forall_mem_ofList (keyHolds valueHolds : Value → Prop) {given : List (Value × Value)}
    (each : ∀ entry ∈ given, keyHolds entry.1 ∧ valueHolds entry.2) :
    ∀ entry ∈ ofList given, keyHolds entry.1 ∧ valueHolds entry.2 := by
  suffices entered : ∀ entries : Entries,
      (∀ entry ∈ entries, keyHolds entry.1 ∧ valueHolds entry.2) →
      ∀ entry ∈ given.foldl (fun entered entry => put entry.1 entry.2 entered) entries,
        keyHolds entry.1 ∧ valueHolds entry.2 from entered [] (by simp)
  induction given with
  | nil => exact fun entries hold => hold
  | cons first rest inductionHypothesis =>
    obtain ⟨ofFirst, ofRest⟩ := List.forall_mem_cons.mp each
    exact fun entries hold =>
      inductionHypothesis ofRest _ (forall_mem_put _ _ hold ofFirst.1 ofFirst.2)

/-- No key stands twice in the map of entries with texts for keys. -/
theorem nodup_keys_ofList {given : List (Value × Value)}
    (texts : ∀ entry ∈ given, ∃ text, entry.1 = .str text) :
    ((ofList given).map (·.1)).Nodup := by
  suffices entered : ∀ entries : Entries, (∀ entry ∈ entries, ∃ text, entry.1 = .str text) →
      (entries.map (·.1)).Nodup →
      ((given.foldl (fun entered entry => put entry.1 entry.2 entered) entries).map (·.1)).Nodup
    from entered [] (by simp) List.nodup_nil
  induction given with
  | nil => exact fun entries _ distinct => distinct
  | cons first rest inductionHypothesis =>
    obtain ⟨⟨key, isKey⟩, restTexts⟩ := List.forall_mem_cons.mp texts
    obtain ⟨_, value⟩ := first
    subst isKey
    intro entries entriesTexts distinct
    have stillTexts : ∀ entry ∈ put (.str key) value entries,
        (∃ text, entry.1 = .str text) ∧ True :=
      forall_mem_put (∃ text, · = .str text) (fun _ => True)
        (fun entry member => ⟨entriesTexts entry member, trivial⟩) ⟨key, rfl⟩ trivial
    refine inductionHypothesis restTexts _ (fun entry member => (stillTexts entry member).1) ?_
    rw [keys_put entriesTexts]
    split
    · exact distinct
    · next absent =>
      rw [List.nodup_append]
      refine ⟨distinct, List.nodup_singleton _, fun other isKey same isSame equal => ?_⟩
      rw [List.mem_singleton.mp isSame] at equal
      exact absent (equal ▸ isKey)

/-- Entries with texts for keys and trees for values make a tree. -/
theorem isTree_ofList {given : List (Value × Value)}
    (texts : ∀ entry ∈ given, ∃ text, entry.1 = .str text)
    (each : ∀ entry ∈ given, entry.2.IsTree admitted) :
    (Value.map (ofList given)).IsTree admitted := by
  have both := forall_mem_ofList (∃ text, · = .str text) (Value.IsTree admitted)
    fun entry member => ⟨texts entry member, each entry member⟩
  exact .map (fun entry member => (both entry member).1) (nodup_keys_ofList texts)
    fun entry member => (both entry member).2

end Entries

namespace Json

/-- A number is a tree. -/
theorem isJson_of_readUnsigned {negative : Bool} {text rest : List Char} {value : Value}
    (read : readUnsigned negative text = some (value, rest)) : value.IsJson := by
  simp only [readUnsigned] at read
  split at read
  · cases read
  · split at read
    · split at read
      · cases read
      · cases read
        exact .int _
    · simp only [Option.bind_eq_bind, Option.bind_eq_some_iff] at read
      obtain ⟨number, -, same⟩ := read
      cases same
      exact .float trivial

/-- A value that has no parts is a tree. -/
theorem isJson_of_readAtom {text rest : List Char} {value : Value}
    (read : readAtom text = some (value, rest)) : value.IsJson := by
  unfold readAtom at read
  split at read
  case h_7 =>
    simp only [Option.bind_eq_bind, Option.bind_eq_some_iff] at read
    obtain ⟨text, -, same⟩ := read
    cases same
    exact .str _
  case h_8 => exact isJson_of_readUnsigned read
  case h_9 => exact isJson_of_readUnsigned read
  all_goals
    cases read
    first | exact .null | exact .bool _ | exact .float trivial

/-- A number has no more digits than it was written with. -/
theorem length_decimalDigits_value_le {digits : List Char} (some : digits ≠ [])
    (each : ∀ c ∈ digits, Numeral.isDigit c = true) :
    (decimalDigits (Numeral.value digits)).length ≤ digits.length := by
  have bounded : ∀ total,
      digits.foldl (fun total c => 10 * total + (c.toNat - '0'.toNat)) total <
        (total + 1) * 10 ^ digits.length := by
    clear some
    induction digits with
    | nil => simp
    | cons c rest inductionHypothesis =>
      intro total
      obtain ⟨isDigit, restDigits⟩ := List.forall_mem_cons.mp each
      have small : c.toNat - '0'.toNat ≤ 9 := by
        have atMost : c ≤ '9' := by simpa using (Bool.and_eq_true_iff.mp isDigit).2
        have : c.toNat ≤ '9'.toNat := atMost
        have : '9'.toNat = '0'.toNat + 9 := rfl
        omega
      calc rest.foldl _ (10 * total + (c.toNat - '0'.toNat))
          < (10 * total + (c.toNat - '0'.toNat) + 1) * 10 ^ rest.length :=
            inductionHypothesis restDigits _
        _ ≤ (10 * (total + 1)) * 10 ^ rest.length := Nat.mul_le_mul_right _ (by omega)
        _ = (total + 1) * 10 ^ (rest.length + 1) := by rw [Nat.pow_succ]; ac_rfl
  refine (Nat.length_toDigits_le_iff (by decide) (List.length_pos_iff.mpr some)).mpr ?_
  simpa [Numeral.value] using bounded 0

/-- The whole part of a number consists of digits. -/
theorem isDigit_of_mem_takeWhole {text : List Char} {c : Char} (member : c ∈ (takeWhole text).1) :
    Numeral.isDigit c = true := by
  unfold takeWhole at member
  split at member
  · rw [List.mem_singleton.mp member]
    rfl
  · exact List.all_eq_true.mp List.all_takeWhile c member

/-- A number that is read is short enough to be written. -/
theorem hasOverlong_of_readUnsigned {negative : Bool} {text rest : List Char} {value : Value}
    (read : readUnsigned negative text = some (value, rest)) : value.hasOverlong = false := by
  simp only [readUnsigned] at read
  split at read
  · cases read
  · next some =>
    split at read
    · split at read
      · cases read
      · next short =>
        cases read
        have written := length_decimalDigits_value_le (by simpa using some)
          fun c member => isDigit_of_mem_takeWhole member
        have size : (if negative then -(Numeral.value (takeWhole text).1 : Int)
            else Numeral.value (takeWhole text).1).natAbs = Numeral.value (takeWhole text).1 := by
          split <;> omega
        simp only [Value.hasOverlong, Value.isOverlong, size, decide_eq_false_iff_not]
        omega
    · simp only [Option.bind_eq_bind, Option.bind_eq_some_iff] at read
      obtain ⟨number, -, same⟩ := read
      cases same
      rfl

/-- A value that has no parts holds no integer that is too long. -/
theorem hasOverlong_of_readAtom {text rest : List Char} {value : Value}
    (read : readAtom text = some (value, rest)) : value.hasOverlong = false := by
  unfold readAtom at read
  split at read
  case h_7 =>
    simp only [Option.bind_eq_bind, Option.bind_eq_some_iff] at read
    obtain ⟨text, -, same⟩ := read
    cases same
    rfl
  case h_8 => exact hasOverlong_of_readUnsigned read
  case h_9 => exact hasOverlong_of_readUnsigned read
  all_goals
    cases read
    rfl

/-- Nor does the map of entries with texts for keys if their values do not. -/
theorem hasOverlong_ofList {given : List (Value × Value)}
    (texts : ∀ entry ∈ given, ∃ text, entry.1 = .str text)
    (each : ∀ entry ∈ given, entry.2.hasOverlong = false) :
    (Value.map (Entries.ofList given)).hasOverlong = false := by
  refine Value.hasOverlong_map_eq_false_iff.mpr
    (Entries.forall_mem_ofList (·.hasOverlong = false) (·.hasOverlong = false)
      fun entry member => ⟨?_, each entry member⟩)
  obtain ⟨text, isText⟩ := texts entry member
  rw [isText]
  rfl

/-- A property that whatever is read has, if the parts of it have. -/
structure ReaderKeeps (holds : Value → Prop) : Prop where
  atom : ∀ {text rest value}, readAtom text = some (value, rest) → holds value
  list : ∀ {items : List Value}, (∀ item ∈ items, holds item) → holds (.list items)
  object : ∀ {given : List (Value × Value)}, (∀ entry ∈ given, ∃ key, entry.1 = .str key) →
    (∀ entry ∈ given, holds entry.2) → holds (.map (Entries.ofList given))

namespace ReaderKeeps

variable {holds : Value → Prop} (keeps : ReaderKeeps holds)
include keeps

/-- What is read in so many steps has the property; so have the items of an array, and the values of
an object, whose keys are texts. -/
theorem steps (steps : Nat) :
    (∀ {text rest value}, readValue steps text = some (value, rest) → holds value) ∧
    (∀ {text rest items}, readItems steps text = some (items, rest) → ∀ item ∈ items, holds item) ∧
    (∀ {text rest entries}, readEntries steps text = some (entries, rest) →
      (∀ entry ∈ entries, ∃ key, entry.1 = .str key) ∧ ∀ entry ∈ entries, holds entry.2) := by
  -- The three readers call each other with one step less, so they share one induction.
  induction steps with
  | zero => simp [readValue, readItems, readEntries]
  | succ steps inductionHypothesis =>
    obtain ⟨ofValue, ofItems, ofEntries⟩ := inductionHypothesis
    refine ⟨?value, ?items, ?entries⟩
    case value =>
      intro text rest value read
      unfold readValue at read
      split at read
      next =>
        split at read
        · cases read
          exact keeps.list (by simp)
        · simp only [Option.bind_eq_bind, Option.bind_eq_some_iff] at read
          obtain ⟨⟨items, left⟩, itemsRead, same⟩ := read
          cases same
          exact keeps.list (ofItems itemsRead)
      next =>
        split at read
        · cases read
          exact keeps.object (List.forall_mem_nil _) (List.forall_mem_nil _)
        · simp only [Option.bind_eq_bind, Option.bind_eq_some_iff] at read
          obtain ⟨⟨entries, left⟩, entriesRead, same⟩ := read
          cases same
          exact keeps.object (ofEntries entriesRead).1 (ofEntries entriesRead).2
      next => exact keeps.atom read
    case items =>
      intro text rest items read
      simp only [readItems, Option.bind_eq_bind, Option.bind_eq_some_iff] at read
      obtain ⟨⟨first, left⟩, firstRead, more⟩ := read
      split at more
      · cases more
        simpa using ofValue firstRead
      · simp only [Option.bind_eq_some_iff] at more
        obtain ⟨⟨others, leftOver⟩, othersRead, same⟩ := more
        cases same
        simpa using ⟨ofValue firstRead, ofItems othersRead⟩
      · cases more
    case entries =>
      intro text rest entries read
      simp only [readEntries, Option.bind_eq_bind, Option.bind_eq_some_iff] at read
      obtain ⟨⟨key, behind⟩, -, ⟨first, left⟩, firstRead, more⟩ := read
      split at more
      · cases more
        simpa using ofValue firstRead
      · simp only [Option.bind_eq_some_iff] at more
        obtain ⟨⟨others, leftOver⟩, othersRead, same⟩ := more
        cases same
        obtain ⟨othersTexts, othersHold⟩ := ofEntries othersRead
        exact ⟨List.forall_mem_cons.mpr ⟨⟨key, rfl⟩, othersTexts⟩,
          List.forall_mem_cons.mpr ⟨ofValue firstRead, othersHold⟩⟩
      · cases more

/-- What is read from a text has the property. -/
theorem read {text : String} {value : Value} (given : Json.read text = some value) :
    holds value := by
  simp only [Json.read, readChars, Option.bind_eq_bind, Option.bind_eq_some_iff] at given
  obtain ⟨⟨whole, rest⟩, wholeRead, ended⟩ := given
  split at ended
  · cases ended
    exact (keeps.steps _).1 wholeRead
  · cases ended

end ReaderKeeps

/-- What is read from a text in JSON is a tree. -/
theorem isJson_of_read {text : String} {value : Value} (given : Json.read text = some value) :
    value.IsJson :=
  ReaderKeeps.read ⟨isJson_of_readAtom, .list, Entries.isTree_ofList⟩ given

/-- What is read from a text in JSON holds no integer that is too long to be written. -/
theorem hasOverlong_of_read {text : String} {value : Value} (given : Json.read text = some value) :
    value.hasOverlong = false :=
  ReaderKeeps.read ⟨hasOverlong_of_readAtom, Value.hasOverlong_collection_eq_false_iff.mpr,
    hasOverlong_ofList⟩ given

end Json

end FormEngine
