import FormEngine.Proofs.Result
import FormEngine.WebAddress

/-!
# Addresses that can not be judged

Whether a text is a web address is decided except where its host part is malformed: brackets that
do not come in a pair, a bracketed host that is no address of version 6 or later, or a character
that hides a delimiter. The scheme does not matter for this.
-/

namespace FormEngine.WebAddress

/-- The host part that is read from a text. -/
def hostOf (text : List Char) : List Char :=
  hostPart (splitScheme ((text.dropWhile isLeading).filter (!isDropped ·))).2

/-- The host between the first opening bracket and the next closing one. -/
def bracketed (host : List Char) : List Char :=
  ((host.dropWhile (· != '[')).drop 1).takeWhile (· != ']')

/-- What can be wrong with the brackets of a host part. -/
inductive MisusesBrackets (host : List Char) : Fault → Prop
  | unclosed (opens : '[' ∈ host) (closes : ']' ∉ host) : MisusesBrackets host .addressBrackets
  | unopened (opens : '[' ∉ host) (closes : ']' ∈ host) : MisusesBrackets host .addressBrackets
  | future (opens : '[' ∈ host) (closes : ']' ∈ host)
      (versioned : (bracketed host).head? = some 'v') (ill : isFuture (bracketed host) = false) :
      MisusesBrackets host .addressFuture
  | version4 (opens : '[' ∈ host) (closes : ']' ∈ host)
      (plain : (bracketed host).head? ≠ some 'v') (isVersion4 : isVersion4 (bracketed host) = true) :
      MisusesBrackets host .addressVersion4
  | noAddress (opens : '[' ∈ host) (closes : ']' ∈ host)
      (plain : (bracketed host).head? ≠ some 'v') (not4 : isVersion4 (bracketed host) = false)
      (not6 : isVersion6 (bracketed host) = false) :
      MisusesBrackets host (.addressHost (String.ofList (bracketed host)))

/-- A host part that can not be read: its brackets are misused or, if not, it hides a delimiter. -/
inductive IsMalformed (host : List Char) : Fault → Prop
  | brackets {fault : Fault} (misused : MisusesBrackets host fault) : IsMalformed host fault
  | hidden (paired : ∀ fault, ¬MisusesBrackets host fault) (c : Char) (member : c ∈ host)
      (hides : Text.hidesDelimiter c = true) :
      IsMalformed host (.addressCompatibility (String.ofList host))

variable {host text : List Char} {fault : Fault}

/-- The check of a bracketed host, where there are brackets of both kinds, fails if the host is no
address of version 6 or later. -/
theorem misusesBrackets_of_checkBracketed (opens : '[' ∈ host) (closes : ']' ∈ host)
    (fails : checkBracketed (bracketed host) = .error fault) : MisusesBrackets host fault := by
  unfold checkBracketed at fails
  split at fails
  next versioned =>
    split at fails
    · cases fails
    · next ill =>
      cases fails
      exact .future opens closes (by simpa using versioned) (by simpa using ill)
  next plain =>
    split at fails
    · next isVersion4 =>
      cases fails
      exact .version4 opens closes (by simpa using plain) isVersion4
    · next not4 =>
      split at fails
      · cases fails
      · next not6 =>
        cases fails
        exact .noAddress opens closes (by simpa using plain) (by simpa using not4)
          (by simpa using not6)

/-- Where there are brackets of both kinds, the host between them is checked. -/
theorem checkBrackets_of_mem (opens : '[' ∈ host) (closes : ']' ∈ host) :
    checkBrackets host = checkBracketed (bracketed host) := by
  rw [checkBrackets, List.contains_iff_mem.mpr opens, List.contains_iff_mem.mpr closes, bracketed]

/-- The check of brackets fails exactly if they are misused. -/
theorem checkBrackets_eq_error_iff :
    checkBrackets host = .error fault ↔ MisusesBrackets host fault := by
  constructor
  · intro fails
    by_cases opens : '[' ∈ host <;> by_cases closes : ']' ∈ host
    · rw [checkBrackets_of_mem opens closes] at fails
      exact misusesBrackets_of_checkBracketed opens closes fails
    all_goals simp [checkBrackets, opens, closes] at fails
    · exact fails ▸ .unclosed opens closes
    · exact fails ▸ .unopened opens closes
  · intro misused
    cases misused with
    | unclosed opens closes | unopened opens closes => simp [checkBrackets, opens, closes]
    | future opens closes versioned ill =>
      simp [checkBrackets_of_mem opens closes, checkBracketed, versioned, ill]
    | version4 opens closes plain isVersion4 =>
      simp [checkBrackets_of_mem opens closes, checkBracketed, plain, isVersion4]
    | noAddress opens closes plain not4 not6 =>
      simp [checkBrackets_of_mem opens closes, checkBracketed, plain, not4, not6]

/-- The check of characters fails exactly if one of them hides a delimiter. -/
theorem checkCompatibility_eq_error_iff :
    checkCompatibility host = .error fault ↔
      (∃ c ∈ host, Text.hidesDelimiter c = true) ∧
        fault = .addressCompatibility (String.ofList host) := by
  unfold checkCompatibility
  split
  next hides => simpa [List.any_eq_true.mp hides] using eq_comm
  next plain => simp_all

/-- Judging a text fails exactly if its host part is malformed. -/
theorem isValid_eq_error_iff : isValid text = .error fault ↔ IsMalformed (hostOf text) fault := by
  have step : isValid text = .error fault ↔ checkBrackets (hostOf text) = .error fault ∨
      checkBrackets (hostOf text) = .ok () ∧ checkCompatibility (hostOf text) = .error fault := by
    simp only [isValid, hostOf]
    cases checkBrackets (hostPart (splitScheme _).2) <;> simp [Result.bind_eq_error_iff]
  rw [step, checkBrackets_eq_error_iff, checkCompatibility_eq_error_iff]
  constructor
  · rintro (misused | ⟨sound, ⟨c, member, hides⟩, rfl⟩)
    · exact .brackets misused
    · refine .hidden (fun other misused => ?_) c member hides
      rw [checkBrackets_eq_error_iff.mpr misused] at sound
      cases sound
  · rintro (misused | ⟨paired, c, member, hides⟩)
    · exact .inl misused
    · cases checked : checkBrackets (hostOf text) with
      | error other => exact absurd (checkBrackets_eq_error_iff.mp checked) (paired other)
      | ok done => exact .inr ⟨rfl, ⟨c, member, hides⟩, rfl⟩

end FormEngine.WebAddress
