import FormEngine.Proofs.Yaml.Value
import FormEngine.Yaml.Library

/-!
# Texts in YAML that escape

A text that is no YAML should be reported as such. Two numbers escape while the text is cut into
tokens, and all faults of nodes but the one that makes the text no YAML escape after that. The
library that comes with the engine fails with these as with faults of its own.
-/

namespace FormEngine.Yaml

/-- The texts that escape before a value is read from them, by what escapes. -/
inductive TextEscapes (text : String) : Prop where
  /-- A directive asks for a version of too many digits. -/
  | version {digits : Nat} (overlong : Numeral.digitLimit < digits)
      (failed : TokenReader.document (scan text) = .error (.integerTooLong digits))
  /-- An escape asks for a character beyond the last one. -/
  | character {code : Nat} (beyond : 0x110000 ≤ code)
      (failed : TokenReader.document (scan text) = .error (.noSuchCharacter code))
  /-- A node does not follow the notation of its tag. -/
  | node {root : Node} {fault : Fault}
      (formed : TokenReader.document (scan text) = .ok (some root))
      (failed : rootValue root = .error fault) (mistaken : fault ≠ .invalidYaml)

/-- The faults of a text that forms no nodes. -/
theorem isTokenFault_of_document {text : String} {fault : Fault}
    (fails : TokenReader.document (scan text) = .error fault) : IsTokenFault fault := by
  rcases TokenReader.document_eq_error fails with rfl | ending
  · exact .invalid
  · exact isTokenFault_of_scan ending

/-- All faults of nodes escape but one. -/
theorem IsNodeFault.escapes_iff {fault : Fault} (isNodeFault : IsNodeFault fault) :
    fault.category ≠ .schemaImport ↔ fault ≠ .invalidYaml := by
  cases isNodeFault <;> simp [Fault.category]

/-- A text escapes exactly if it is one of those that do. -/
theorem escapes_read_iff (text : String) : Escapes (read text) ↔ TextEscapes text := by
  unfold read
  constructor
  · intro escapes
    rcases Result.failsAs_bind_iff.mp escapes with ⟨fault, failed, escape⟩ | ⟨root, formed, escape⟩
    · cases isTokenFault_of_document failed with
      | invalid => exact absurd rfl escape
      | version overlong => exact .version overlong failed
      | escape beyond => exact .character beyond failed
    · cases root with
      | none => exact absurd escape (Result.not_failsAs_ok _)
      | some root =>
        obtain ⟨fault, failed, escape⟩ := escape
        exact .node formed failed ((failsOnly_rootValue root fault failed).escapes_iff.mp escape)
  · rintro (⟨overlong, failed⟩ | ⟨beyond, failed⟩ | ⟨formed, failed, mistaken⟩)
    · simp [failed, Fault.category]
    · simp only [failed, Result.error_bind, Result.failsAs_error_iff, Fault.category]
      split <;> simp
    · simpa [formed, failed] using (failsOnly_rootValue _ _ failed).escapes_iff.mpr mistaken

/-- The categories of the faults of texts. -/
theorem category_of_read {text : String} {fault : Fault} (fails : read text = .error fault) :
    fault.category ∈ [.schemaImport, .badValue, .overflow, .badKind, .missingPart, .missingKey,
      .missingPlace] := by
  unfold read at fails
  rcases Result.bind_eq_error_iff.mp fails with failed | ⟨root, formed, failed⟩
  · cases isTokenFault_of_document failed with
    | invalid => simp [Fault.category]
    | version overlong => simp [Fault.category]
    | escape beyond =>
      simp only [Fault.category]
      split <;> simp
  · cases root with
    | none => cases failed
    | some root => cases failsOnly_rootValue root fault failed <;> simp [Fault.category]

/-- The library that comes with the engine has a fault of its own exactly where reading the text has
one that does not make it no YAML. -/
theorem load_eq_own_iff {text : String} {fault : Fault} :
    load (.str text) = .error (.own fault) ↔ read text = .error fault ∧ fault ≠ .invalidYaml := by
  rcases isRead : read text with other | document
  · simp only [load, isRead, Except.mapError, failureOf, Except.error.injEq]
    split
    case h_1 => simp +contextual [eq_comm]
    case h_2 other proper =>
      simp only [YamlFailure.own.injEq, iff_self_and]
      rintro rfl same
      exact proper same
  · simp [load, isRead, Except.mapError]

/-- So it has one that escapes exactly where reading the text does. -/
theorem exists_own_iff {text : String} :
    (∃ fault, load (.str text) = .error (.own fault) ∧ fault.category ≠ .schemaImport) ↔
      Escapes (read text) := by
  refine exists_congr fun fault => ?_
  rw [load_eq_own_iff, and_assoc, and_congr_right_iff]
  rintro -
  exact and_iff_right_of_imp fun escape same => escape (same ▸ rfl)

/-- It finds a document exactly where reading the text does. -/
theorem load_eq_ok_iff {text : String} {document : Value} :
    load (.str text) = .ok document ↔ read text = .ok document := by
  cases isRead : read text <;> simp [load, isRead, Except.mapError]

end FormEngine.Yaml
