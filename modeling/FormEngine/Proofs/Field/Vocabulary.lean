import FormEngine.Field.Basic
import FormEngine.Proofs.Result

/-!
# Words of the vocabularies

Field types, rule kinds and operators are recognised by their words, and a field type by nothing
else.
-/

namespace FormEngine

/-- Field types are recognised by their words. -/
theorem FieldType.ofWire?_wire (type : FieldType) : FieldType.ofWire? type.wire = some type := by
  cases type <;> decide

/-- Rule kinds are recognised by their words. -/
theorem RuleKind.ofWire?_wire (kind : RuleKind) : RuleKind.ofWire? kind.wire = some kind := by
  cases kind <;> decide

/-- Operators are recognised by their words. -/
theorem Operator.ofWire?_wire (operator : Operator) :
    Operator.ofWire? operator.wire = some operator := by
  cases operator <;> decide

/-- A value names a field type if it is the word for it. -/
def Value.NamesType (value : Value) (type : FieldType) : Prop :=
  value = .str type.wire

/-- A field type is read of the value that names it. -/
theorem FieldType.ofValue_eq_ok_iff {value : Value} {type : FieldType} :
    FieldType.ofValue value = .ok type ↔ value.NamesType type := by
  constructor
  · intro read
    unfold FieldType.ofValue at read
    split at read
    · next found =>
      obtain rfl := (Except.ok.inj read).symm
      obtain ⟨text, isText, named⟩ := Option.bind_eq_some_iff.mp found
      have isWord : type.wire = text := by simpa using List.find?_some named
      cases value with
      | str other =>
        obtain rfl := Option.some.inj isText
        rw [Value.NamesType, isWord]
      | _ => cases isText
    · cases read
  · rintro rfl
    simp [FieldType.ofValue, Value.text?, FieldType.ofWire?_wire]

end FormEngine
