import FormEngine.Document.Reading
import FormEngine.Document.Writing
import FormEngine.Proofs.Calendar.RoundTrip
import FormEngine.Proofs.Validation.Address

/-!
# Days through documents

A default value that is a date or a point in time stands as text in a document. Read as an answer,
that text denotes the day of the value, whatever its time of day and its offset are. An offset of
less than a second is lost on the way, but no offset moves a point in time to another day.
-/

namespace FormEngine

/-- A date or a point in time, with its day in the calendar where it was written down. -/
inductive Value.Dated : Value → Date → Prop where
  | date (day : Date) : Dated (.date day) day
  | dateTime (moment : DateTime) : Dated (.dateTime moment) moment.date

/-- A text with other text around it. -/
def surrounded (before : List Char) (text : String) (after : List Char) : String :=
  String.ofList (before ++ text.toList ++ after)

/-- The text of a point in time is too long for a date. -/
theorem Iso.readDate?_dateTimeText (moment : DateTime) :
    readDate? (dateTimeText 'T' moment) = none := by
  have long : 11 ≤ byteLength (dateTimeText 'T' moment) := by
    have characters : 11 ≤ (dateTimeText 'T' moment).length := by
      rw [dateTimeText_eq, List.length_append, length_dateText, List.length_cons]
      omega
    exact Nat.le_trans characters (length_le_byteLength _)
  have noDate : [7, 8, 10].contains (byteLength (dateTimeText 'T' moment)) = false := by
    simp only [List.contains_eq_mem, List.mem_cons, List.not_mem_nil, or_false,
      decide_eq_false_iff_not]
    omega
  rw [readDate?, noDate, if_neg Bool.false_ne_true]

/-- A text that stands for a day: it is there, holds no blank and is read as the day. -/
structure IsTextOfDay (text : List Char) (day : Date) : Prop where
  nonempty : text ≠ []
  noBlank : ∀ c ∈ text, Text.isBlank c = false
  read : (Iso.readDate? text).or
    ((Iso.readDateTime? (Value.spellOutUtc text)).map (·.date)) = some day

namespace IsTextOfDay

variable {text : String} {day : Date} {before after : List Char}

/-- With blanks around it, the text is read as an answer that denotes the day. -/
theorem date?_surrounded (isText : IsTextOfDay text.toList day)
    (blankBefore : ∀ c ∈ before, Text.isBlank c = true)
    (blankAfter : ∀ c ∈ after, Text.isBlank c = true) :
    (Value.str (surrounded before text after)).date? = some day := by
  simp only [Value.date?, surrounded, String.toList_ofList,
    Iso.trimList_padded blankBefore isText.noBlank blankAfter]
  exact isText.read

/-- The text is there, with whatever around it. -/
theorem isBlankText_surrounded (isText : IsTextOfDay text.toList day) (before after : List Char) :
    Text.isBlankText (surrounded before text after) = false := by
  obtain ⟨c, member⟩ := List.exists_mem_of_ne_nil _ isText.nonempty
  rw [Text.isBlankText, surrounded, String.toList_ofList, List.all_eq_false]
  exact ⟨c, by simp [member], by simp [isText.noBlank c member]⟩

end IsTextOfDay

namespace Value.Dated

variable {value : Value} {day : Date}

/-- The day that the value denotes. -/
theorem date?_eq (dated : value.Dated day) : value.date? = some day := by
  cases dated <;> rfl

/-- A document holds a value of a day as a text that stands for the day. -/
theorem exists_text (dated : value.Dated day) :
    ∃ text : String, value.toDocument = .str text ∧ IsTextOfDay text.toList day := by
  cases dated with
  | date =>
    refine ⟨_, rfl, ?_⟩
    rw [String.toList_ofList]
    exact {
      nonempty := List.ne_nil_of_length_eq_add_one (Iso.length_dateText day)
      noBlank := fun c member => Iso.isBlank_of_mem_dateText member
      read := by rw [Iso.readDate?_dateText, Option.some_or] }
  | dateTime moment =>
    refine ⟨_, rfl, ?_⟩
    rw [String.toList_ofList]
    exact {
      nonempty := Iso.dateTimeText_ne_nil 'T' moment
      noBlank := fun c member => Iso.isBlank_of_mem_dateTimeText member
      read := by
        rw [Iso.readDate?_dateTimeText, Iso.spellOutUtc_dateTimeText,
          Iso.readDateTime?_dateTimeText]
        rfl }

end Value.Dated

/-- The text of a date is read back as the date where a date is asked for. -/
theorem readDefault_surrounded (day : Date) {before after : List Char}
    (blankBefore : ∀ c ∈ before, Text.isBlank c = true)
    (blankAfter : ∀ c ∈ after, Text.isBlank c = true) :
    readDefault .date (.str (surrounded before (String.ofList (Iso.dateText day)) after)) =
      .date day := by
  have noBlank : ∀ c ∈ Iso.dateText day, Text.isBlank c = false := fun c member =>
    Iso.isBlank_of_mem_dateText member
  simp only [readDefault, surrounded, String.toList_ofList,
    Iso.trimList_padded blankBefore noBlank blankAfter, Iso.readDate?_dateText]

/-- A default value keeps its day in a document. A date or a point in time stands there as a text
that denotes the same day as the value, with whatever blanks around it. A date field accepts it as
an answer. The text of a date, read as the default of a date field, is the date again. -/
theorem Field.exported_default_keeps_day (field : Field) {value : Value} {day : Date}
    (dated : value.Dated day) :
    value.date? = some day ∧ ∃ text, value.toDocument = .str text ∧
      ∀ before after, (∀ c ∈ before, Text.isBlank c = true) →
        (∀ c ∈ after, Text.isBlank c = true) →
        (Value.str (surrounded before text after)).date? = some day ∧
        (field.retyped .date []).validate (.str (surrounded before text after)) = .ok none ∧
        (value = .date day →
          readDefault .date (.str (surrounded before text after)) = .date day) := by
  obtain ⟨text, written, isText⟩ := dated.exists_text
  refine ⟨dated.date?_eq, text, written, fun before after blankBefore blankAfter => ?_⟩
  have sameDay := isText.date?_surrounded blankBefore blankAfter
  refine ⟨sameDay, ?_, ?_⟩
  · rw [field.validate_present .date (isText.isBlankText_surrounded before after), typeVerdict,
      sameDay]
    rfl
  · rintro rfl
    obtain rfl : String.ofList (Iso.dateText day) = text := Value.str.inj written
    exact readDefault_surrounded day blankBefore blankAfter

/-- The last moment of the calendar, as far west as can be, keeps its day, and so does a leap day,
which comes back as it was. -/
theorem Field.exported_default_keeps_day_lastMoment :
    let last : DateTime :=
      ⟨⟨9999, 12, 31, by decide⟩, ⟨23, 59, 59, 999999, by decide⟩, some ⟨-86399999999, by decide⟩⟩
    let leapDay : Date := ⟨2024, 2, 29, by decide⟩
    (Value.dateTime last).Dated last.date ∧ (Value.date leapDay).Dated leapDay ∧
      (Value.str " 9999-12-31T23:59:59.999999-23:59:59.999999\n").date? = some last.date ∧
      (ageField.retyped .date []).validate
        (.str " 9999-12-31T23:59:59.999999-23:59:59.999999\n") = .ok none ∧
      readDefault .date (.str "\t2024-02-29") = .date leapDay := by
  intro last leapDay
  have space : ∀ c ∈ [' '], Text.isBlank c = true := List.forall_mem_singleton.mpr (by decide)
  have lineFeed : ∀ c ∈ ['\n'], Text.isBlank c = true := List.forall_mem_singleton.mpr (by decide)
  have tab : ∀ c ∈ ['\t'], Text.isBlank c = true := List.forall_mem_singleton.mpr (by decide)
  have spelled : (Value.dateTime last).toDocument =
      .str "9999-12-31T23:59:59.999999-23:59:59.999999" := by decide +kernel
  have leapSpelled : (Value.date leapDay).toDocument = .str "2024-02-29" := by decide +kernel
  obtain ⟨-, text, written, kept⟩ := ageField.exported_default_keeps_day (.dateTime last)
  obtain ⟨-, leapText, leapWritten, leapKept⟩ := ageField.exported_default_keeps_day (.date leapDay)
  obtain rfl := Value.str.inj (spelled.symm.trans written)
  obtain rfl := Value.str.inj (leapSpelled.symm.trans leapWritten)
  obtain ⟨sameDay, accepted, -⟩ := kept _ _ space lineFeed
  obtain ⟨-, -, restored⟩ := leapKept _ [] tab (List.forall_mem_nil _)
  exact ⟨.dateTime last, .date leapDay, sameDay, accepted, restored rfl⟩

end FormEngine
