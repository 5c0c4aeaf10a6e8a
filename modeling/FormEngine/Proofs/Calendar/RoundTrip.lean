import FormEngine.Answer
import FormEngine.Proofs.Calendar.Digits

/-!
# Dates and times through their texts

A date is read back from its text as it was. So is a point in time, unless its offset is less than a
second, for such an offset is read as none at all.
-/

namespace FormEngine

/-- An offset that its text tells apart from Coordinated Universal Time. -/
def Offset.IsLegible (offset : Offset) : Prop :=
  offset.east = 0 ∨ microsecondsPerSecond ≤ offset.east.natAbs

/-- A point in time that can be read off its text. -/
def DateTime.IsLegible (moment : DateTime) : Prop :=
  ∀ offset, moment.offset = some offset → offset.IsLegible

/-- A point in Coordinated Universal Time can be read off its text. -/
theorem DateTime.isLegible_of_utc {moment : DateTime} (utc : moment.offset = some .utc) :
    moment.IsLegible := by
  intro offset present
  rw [utc] at present
  cases present
  exact .inl rfl

/-- The offset that is read off the text of an offset: none at all for less than a second. -/
def Offset.asRead (offset : Offset) : Offset :=
  if offset.east.natAbs < microsecondsPerSecond then .utc else offset

/-- The point in time that is read off the text of a point in time. -/
def DateTime.asRead (moment : DateTime) : DateTime :=
  { moment with offset := moment.offset.map Offset.asRead }

/-- Offsets are the same if they go equally far east. -/
theorem Offset.ext {left right : Offset} (east : left.east = right.east) : left = right := by
  cases left
  cases right
  cases east
  rfl

/-- A legible offset is read as it is. -/
theorem Offset.IsLegible.asRead {offset : Offset} (legible : offset.IsLegible) :
    offset.asRead = offset := by
  unfold Offset.asRead
  split
  · next small =>
    rcases legible with zero | long
    · exact Offset.ext zero.symm
    · omega
  · rfl

/-- A legible point in time is read as it is. -/
theorem DateTime.IsLegible.asRead {moment : DateTime} (legible : moment.IsLegible) :
    moment.asRead = moment := by
  obtain ⟨date, time, offset⟩ := moment
  cases offset with
  | none => rfl
  | some offset => simp [DateTime.asRead, (legible offset rfl).asRead]

/-- A point in time that is still the same when it is read off its text is legible. -/
theorem DateTime.isLegible_of_same_asRead {moment : DateTime}
    (same : moment.asRead.same moment = true) : moment.IsLegible := by
  intro offset present
  by_cases small : offset.east.natAbs < microsecondsPerSecond
  · -- Read as none at all, the offset moves the instant unless it is zero.
    have read : moment.asRead.offset = some .utc := by
      simp [DateTime.asRead, present, Offset.asRead, small]
    have unmoved : moment.asRead.localInstant - 0 = moment.localInstant - offset.east := by
      simpa [DateTime.same, read, present, Offset.utc] using same
    have sameLocally : moment.asRead.localInstant = moment.localInstant := rfl
    left
    omega
  · exact .inr (Nat.le_of_not_lt small)

namespace Iso

open FormEngine.Numeral

/-- A day has at most two digits in its year's calendar, and so has its month. -/
theorem Date.small (day : Date) : day.year < 10000 ∧ day.month < 100 ∧ day.day < 100 := by
  obtain ⟨-, year, -, month, -, inMonth⟩ := day.exists_day
  have length : monthLength day.year day.month ≤ 31 := by
    unfold monthLength
    repeat' split
    all_goals omega
  omega

/-- The named day of a date is the date. -/
theorem Date.of?_self (day : Date) : Date.of? day.year day.month day.day = some day := by
  simp [Date.of?, day.exists_day]

/-- A date is written in ten characters. -/
theorem length_dateText (day : Date) : (dateText day).length = 10 := by
  obtain ⟨year, month, inMonth⟩ := Date.small day
  simp only [dateText, List.length_append, List.length_cons,
    length_paddedDigits 4 (by decide) (by simpa using year),
    length_paddedDigits 2 (by decide) (by simpa using month),
    length_paddedDigits 2 (by decide) (by simpa using inMonth)]

/-- A date is read from the text that it is written as. -/
theorem readDatePrefix?_dateText (day : Date) : readDatePrefix? (dateText day) = some day := by
  obtain ⟨year, month, inMonth⟩ := Date.small day
  have years := takeDigits_paddedDigits 4 (by decide) (by simpa using year)
    ('-' :: (paddedDigits 2 day.month ++ '-' :: paddedDigits 2 day.day))
  have months := takeDigits_two month ('-' :: paddedDigits 2 day.day)
  have days := takeDigits_two inMonth []
  rw [List.append_nil] at days
  have monthDay : readMonthDay? day.year true
      (paddedDigits 2 day.month ++ '-' :: paddedDigits 2 day.day) = some day := by
    simp [readMonthDay?, months, takeChar, days, Date.of?_self]
  obtain ⟨digit, rest, written, isDigit⟩ :=
    paddedDigits_eq_cons 2 (by decide) (by simpa using month)
  have notWeek : digit ≠ 'W' := by
    rintro rfl
    exact absurd isDigit (by decide)
  rw [written] at monthDay
  rw [written] at years
  simp only [readDatePrefix?, dateText, written, years, Option.bind_eq_bind, Option.bind_some]
  simpa [notWeek] using monthDay

/-- A text has at least as many bytes as characters. -/
theorem length_le_byteLength (text : List Char) : text.length ≤ byteLength text := by
  induction text with
  | nil => simp [byteLength]
  | cons c rest inductionHypothesis =>
    have positive := Char.utf8Size_pos c
    simp only [byteLength, List.map_cons, List.sum_cons, List.length_cons] at inductionHypothesis ⊢
    omega

/-- A text of characters of one byte each has as many bytes as characters. -/
theorem byteLength_eq_length {text : List Char} (single : ∀ c ∈ text, c.utf8Size = 1) :
    byteLength text = text.length := by
  induction text with
  | nil => rfl
  | cons c rest inductionHypothesis =>
    have restSingle := inductionHypothesis fun other member => single other (.tail _ member)
    simp only [byteLength, List.map_cons, List.sum_cons, List.length_cons] at restSingle ⊢
    rw [single c (.head _), restSingle]
    omega

/-- Digits take one byte. -/
theorem utf8Size_of_isDigit {c : Char} (digit : Numeral.isDigit c = true) : c.utf8Size = 1 := by
  simp only [Numeral.isDigit, Bool.and_eq_true, decide_eq_true_eq, Char.le_def] at digit
  have small : c.val ≤ 127 := UInt32.le_trans digit.2 (by decide)
  simp [Char.utf8Size, small]

/-- The characters of a date are digits and dashes. -/
theorem mem_dateText {day : Date} {c : Char} (member : c ∈ dateText day) :
    Numeral.isDigit c = true ∨ c = '-' := by
  simp only [dateText, List.mem_append, List.mem_cons] at member
  rcases member with inYear | rfl | inMonth | rfl | inDay
  · exact .inl (isDigit_of_mem_paddedDigits inYear)
  · exact .inr rfl
  · exact .inl (isDigit_of_mem_paddedDigits inMonth)
  · exact .inr rfl
  · exact .inl (isDigit_of_mem_paddedDigits inDay)

/-- A date is read from the whole text that it is written as. -/
theorem readDate?_dateText (day : Date) : readDate? (dateText day) = some day := by
  have bytes : byteLength (dateText day) = 10 := by
    rw [byteLength_eq_length, length_dateText]
    intro c member
    rcases mem_dateText member with digit | rfl
    · exact utf8Size_of_isDigit digit
    · rfl
  simp [readDate?, bytes, readDatePrefix?_dateText]

/-- Six digits behind the point are read as microseconds. -/
theorem readFraction?_padded (clock : Clock) {microsecond : Nat} (small : microsecond < 1000000) :
    readFraction? clock (paddedDigits 6 microsecond) =
      some ⟨{ clock with microsecond }, false⟩ := by
  have length := length_paddedDigits 6 (by decide) (by simpa using small)
  have taken := takeDigits_paddedDigits 6 (by decide) (by simpa using small) []
  rw [List.append_nil] at taken
  simp [readFraction?, length, taken]

/-- The last component of a clock with what is left of its second. -/
theorem readComponents?_second (hour minute : Nat) {second microsecond : Nat}
    (whole : second < 100) (part : microsecond < 1000000) :
    readComponents? { hour, minute } true 2 (paddedDigits 2 second ++ fractionText microsecond) 1 =
      some ⟨⟨hour, minute, second, microsecond⟩, false⟩ := by
  simp only [readComponents?, takeDigits_two whole, Option.bind_eq_bind, Option.bind_some,
    Clock.enter]
  by_cases zero : microsecond = 0
  · simp [fractionText, zero]
  · obtain ⟨digit, rest, written, -⟩ :=
      paddedDigits_eq_cons 6 (by decide) (by simpa using part)
    have read := readFraction?_padded { hour, minute, second } part
    rw [written] at read
    simp [fractionText, zero, written, read]

/-- A clock of hours and minutes is read. -/
theorem readClock?_minutes {hour minute : Nat} (hours : hour < 100) (minutes : minute < 100) :
    readClock? (paddedDigits 2 hour ++ ':' :: paddedDigits 2 minute) =
      some ⟨{ hour, minute }, false⟩ := by
  have lastTaken := takeDigits_two minutes []
  rw [List.append_nil] at lastTaken
  have last : readComponents? { hour } true 1 (paddedDigits 2 minute) 2 =
      some ⟨{ hour, minute }, false⟩ := by
    simp [readComponents?, lastTaken, Clock.enter]
  obtain ⟨digit, rest, written, -⟩ :=
    paddedDigits_eq_cons 2 (by decide) (by simpa using minutes)
  rw [written] at last ⊢
  simp [readClock?, readComponents?.eq_def {} false 0 _ 3, takeDigits_two hours, Clock.enter, last]

/-- A clock of hours, minutes and seconds is read, with its fraction. -/
theorem readClock?_seconds {hour minute second microsecond : Nat} (hours : hour < 100)
    (minutes : minute < 100) (seconds : second < 100) (part : microsecond < 1000000) :
    readClock? (paddedDigits 2 hour ++ ':' :: (paddedDigits 2 minute ++ ':' ::
      (paddedDigits 2 second ++ fractionText microsecond))) =
      some ⟨⟨hour, minute, second, microsecond⟩, false⟩ := by
  have last := readComponents?_second hour minute seconds part
  obtain ⟨secondDigit, secondRest, secondWritten, -⟩ :=
    paddedDigits_eq_cons 2 (by decide) (by simpa using seconds)
  obtain ⟨minuteDigit, minuteRest, minuteWritten, -⟩ :=
    paddedDigits_eq_cons 2 (by decide) (by simpa using minutes)
  have minutesTaken := takeDigits_two minutes
    (':' :: (paddedDigits 2 second ++ fractionText microsecond))
  rw [secondWritten, List.cons_append] at last minutesTaken ⊢
  have middle : readComponents? { hour } true 1 (paddedDigits 2 minute ++ ':' ::
      (secondDigit :: (secondRest ++ fractionText microsecond))) 2 =
      some ⟨⟨hour, minute, second, microsecond⟩, false⟩ := by
    simp [readComponents?.eq_def { hour } true 1 _ 2, minutesTaken, Clock.enter, last]
  rw [minuteWritten, List.cons_append] at middle ⊢
  simp [readClock?, readComponents?.eq_def {} false 0 _ 3, takeDigits_two hours, Clock.enter,
    middle]

/-- An offset has fewer than a hundred hours, minutes and seconds. -/
theorem Offset.small (offset : Offset) :
    offset.east.natAbs / microsecondsPerSecond / 3600 < 100 ∧
      offset.east.natAbs / microsecondsPerSecond / 60 % 60 < 100 ∧
      offset.east.natAbs / microsecondsPerSecond % 60 < 100 ∧
      offset.east.natAbs % microsecondsPerSecond < 1000000 := by
  have withinDay := offset.within_day
  simp only [microsecondsPerSecond]
  omega

/-- The clock that an offset is written as. -/
def Offset.clock (offset : Offset) : Clock where
  hour := offset.east.natAbs / microsecondsPerSecond / 3600
  minute := offset.east.natAbs / microsecondsPerSecond / 60 % 60
  second := offset.east.natAbs / microsecondsPerSecond % 60
  microsecond := offset.east.natAbs % microsecondsPerSecond

/-- Behind the sign of an offset its clock is read. -/
theorem readClock?_offsetText (offset : Offset) :
    ∃ text, offsetText offset = (if offset.east < 0 then '-' else '+') :: text ∧
      readClock? text = some ⟨Offset.clock offset, false⟩ := by
  obtain ⟨hours, minutes, seconds, part⟩ := Offset.small offset
  refine ⟨_, rfl, ?_⟩
  by_cases whole : offset.east.natAbs / microsecondsPerSecond % 60 = 0 ∧
      offset.east.natAbs % microsecondsPerSecond = 0
  · rw [if_pos whole, List.append_nil, readClock?_minutes hours minutes, Offset.clock, whole.1,
      whole.2]
  · rw [if_neg whole, readClock?_seconds hours minutes seconds part, Offset.clock]

/-- The distances that are offsets. -/
theorem Offset.of?_eq_some_iff {east : Int} {offset : Offset} :
    Offset.of? east = some offset ↔ offset.east = east := by
  constructor
  · intro named
    unfold Offset.of? at named
    split at named
    · exact (congrArg Offset.east (Option.some.inj named)).symm
    · cases named
  · rintro rfl
    simp [Offset.of?, offset.within_day]

/-- What the clock of an offset stands for. -/
theorem clockOffset?_clock (offset : Offset) :
    clockOffset? (decide (offset.east < 0)) (Offset.clock offset) = some offset.asRead := by
  have seconds : (offset.east.natAbs / 1000000 / 3600 * 60
      + offset.east.natAbs / 1000000 / 60 % 60) * 60 + offset.east.natAbs / 1000000 % 60 =
      offset.east.natAbs / 1000000 := by omega
  simp only [clockOffset?, Offset.clock, microsecondsPerSecond, seconds]
  by_cases small : offset.east.natAbs < 1000000
  · have asRead : offset.asRead = .utc := if_pos small
    rw [if_pos (by omega), asRead]
  · have asRead : offset.asRead = offset := if_neg small
    rw [if_neg (by omega), asRead, Offset.of?_eq_some_iff]
    by_cases west : offset.east < 0
    · rw [if_pos (by simpa using west)]
      omega
    · rw [if_neg (by simpa using west)]
      omega

/-- What is read from the text of an offset. -/
theorem readOffset?_offsetText (offset : Offset) :
    readOffset? (offsetText offset) = some (some offset.asRead) := by
  obtain ⟨text, written, read⟩ := readClock?_offsetText offset
  have meant := clockOffset?_clock offset
  rw [written]
  by_cases west : offset.east < 0
  · simp only [west, decide_true] at meant
    simp [west, readOffset?, read, meant]
  · simp only [west, decide_false] at meant
    simp [west, readOffset?, read, meant]

/-- An offset that was read is legible. -/
theorem isLegible_of_clockOffset? {west : Bool} {clock : Clock} {offset : Offset}
    (read : clockOffset? west clock = some offset) : offset.IsLegible := by
  simp only [clockOffset?] at read
  by_cases zero : (clock.hour * 60 + clock.minute) * 60 + clock.second = 0
  · rw [if_pos zero] at read
    cases read
    exact .inl rfl
  · rw [if_neg zero] at read
    right
    rw [Offset.of?_eq_some_iff] at read
    simp only [microsecondsPerSecond] at read ⊢
    split at read <;> omega

/-- A character of a clock: a digit, a colon or a point. -/
def IsClockChar (c : Char) : Prop :=
  Numeral.isDigit c = true ∨ c = ':' ∨ c = '.'

/-- The characters of a fraction belong to clocks. -/
theorem isClockChar_of_mem_fractionText {microsecond : Nat} {c : Char}
    (member : c ∈ fractionText microsecond) : IsClockChar c := by
  unfold fractionText at member
  split at member
  · cases member
  · rcases List.mem_cons.mp member with rfl | inDigits
    · exact .inr (.inr rfl)
    · exact .inl (isDigit_of_mem_paddedDigits inDigits)

/-- The characters of a time of day belong to clocks. -/
theorem isClockChar_of_mem_timeText {time : TimeOfDay} {c : Char} (member : c ∈ timeText time) :
    IsClockChar c := by
  simp only [timeText, List.mem_append, List.mem_cons] at member
  rcases member with inHour | rfl | inMinute | rfl | inSecond | inFraction
  · exact .inl (isDigit_of_mem_paddedDigits inHour)
  · exact .inr (.inl rfl)
  · exact .inl (isDigit_of_mem_paddedDigits inMinute)
  · exact .inr (.inl rfl)
  · exact .inl (isDigit_of_mem_paddedDigits inSecond)
  · exact isClockChar_of_mem_fractionText inFraction

/-- Behind its sign, the characters of an offset belong to clocks. -/
theorem mem_offsetText {offset : Offset} {c : Char} (member : c ∈ offsetText offset) :
    IsClockChar c ∨ c = '+' ∨ c = '-' := by
  simp only [offsetText, List.mem_cons, List.mem_append] at member
  rcases member with rfl | inHour | rfl | inMinute | inTail
  · split
    · exact .inr (.inr rfl)
    · exact .inr (.inl rfl)
  · exact .inl (.inl (isDigit_of_mem_paddedDigits inHour))
  · exact .inl (.inr (.inl rfl))
  · exact .inl (.inl (isDigit_of_mem_paddedDigits inMinute))
  · split at inTail
    · cases inTail
    · simp only [List.mem_cons, List.mem_append] at inTail
      rcases inTail with rfl | inSecond | inFraction
      · exact .inl (.inr (.inl rfl))
      · exact .inl (.inl (isDigit_of_mem_paddedDigits inSecond))
      · exact .inl (isClockChar_of_mem_fractionText inFraction)

/-- A character that is no digit is no character of a clock but for colons and points. -/
theorem IsClockChar.ne {c other : Char} (isClock : IsClockChar c)
    (foreign : ¬IsClockChar other) : c ≠ other := by
  rintro rfl
  exact foreign isClock

instance (c : Char) : Decidable (IsClockChar c) := by
  unfold IsClockChar
  infer_instance

/-- No character of a time of day begins an offset. -/
theorem beginsOffset_of_mem_timeText {time : TimeOfDay} {c : Char} (member : c ∈ timeText time) :
    beginsOffset c = false := by
  have isClock := isClockChar_of_mem_timeText member
  simp only [beginsOffset, Bool.or_eq_false_iff, beq_eq_false_iff_ne]
  exact ⟨⟨isClock.ne (by decide), isClock.ne (by decide)⟩, isClock.ne (by decide)⟩

/-- The text of an offset that may be missing. -/
def offsetPart (offset : Option Offset) : List Char :=
  match offset with
  | none => []
  | some offset => offsetText offset

/-- What stands behind a time of day begins an offset, if anything does. -/
theorem offsetPart_eq (offset : Option Offset) :
    offsetPart offset = [] ∧ offset = none ∨
      ∃ sign text, offsetPart offset = sign :: text ∧ beginsOffset sign = true := by
  cases offset with
  | none => exact .inl ⟨rfl, rfl⟩
  | some offset =>
    obtain ⟨text, written, -⟩ := readClock?_offsetText offset
    refine .inr ⟨_, text, written, ?_⟩
    split <;> rfl

/-- A time of day is read with the offset behind it. -/
theorem readTime?_timeText (time : TimeOfDay) (offset : Option Offset) :
    readTime? (timeText time ++ offsetPart offset) = some (time, offset.map Offset.asRead) := by
  obtain ⟨hours, minutes, seconds, part⟩ := time.in_day
  have inTime : ∀ c ∈ timeText time, (!beginsOffset c) = true := fun c member => by
    simp [beginsOffset_of_mem_timeText member]
  have clockText : (timeText time ++ offsetPart offset).takeWhile (!beginsOffset ·) =
      timeText time := by
    rw [List.takeWhile_append_of_pos inTime]
    rcases offsetPart_eq offset with ⟨empty, -⟩ | ⟨sign, text, written, begins⟩
    · simp [empty]
    · simp [written, begins]
  have behind : (timeText time ++ offsetPart offset).dropWhile (!beginsOffset ·) =
      offsetPart offset := by
    rw [List.dropWhile_append_of_pos inTime]
    rcases offsetPart_eq offset with ⟨empty, -⟩ | ⟨sign, text, written, begins⟩
    · simp [empty]
    · simp [written, begins]
  have clockRead : readClock? (timeText time) =
      some ⟨⟨time.hour, time.minute, time.second, time.microsecond⟩, false⟩ :=
    readClock?_seconds (by omega) (by omega) (by omega) part
  have offsetRead : readOffset? (offsetPart offset) = some (offset.map Offset.asRead) := by
    cases offset with
    | none => rfl
    | some present => exact readOffset?_offsetText present
  have named : TimeOfDay.of? time.hour time.minute time.second time.microsecond = some time := by
    simp [TimeOfDay.of?, hours, minutes, seconds, part]
  simp [readTime?, clockText, behind, clockRead, offsetRead, named]

/-- The date in front of a time takes ten characters. -/
theorem dateLength?_dateText (day : Date) (rest : List Char) :
    dateLength? (dateText day ++ rest) = some 10 := by
  obtain ⟨year, month, inMonth⟩ := Date.small day
  have length := length_paddedDigits 4 (by decide) (by simpa using year)
  have bytes := length_le_byteLength (dateText day ++ rest)
  rw [List.length_append, length_dateText] at bytes
  obtain ⟨digit, tail, written, isDigit⟩ :=
    paddedDigits_eq_cons 2 (by decide) (by simpa using month)
  have notWeek : digit ≠ 'W' := by
    rintro rfl
    exact absurd isDigit (by decide)
  have dash : (dateText day ++ rest)[4]? = some '-' := by
    simp [dateText, length]
  have behindDash : (dateText day ++ rest)[5]? = some digit := by
    simp [dateText, List.getElem?_append, length, written]
  unfold dateLength?
  rw [if_neg (by omega), dash, behindDash]
  simp [notWeek]

/-- A point in time is written as a date and a time, with a letter between them. -/
theorem dateTimeText_eq (separator : Char) (moment : DateTime) :
    dateTimeText separator moment = dateText moment.date ++
      separator :: (timeText moment.time ++ offsetPart moment.offset) := by
  cases offset : moment.offset <;> simp [dateTimeText, offset, offsetPart]

/-- The text of a point in time is not empty. -/
theorem dateTimeText_ne_nil (separator : Char) (moment : DateTime) :
    dateTimeText separator moment ≠ [] := by
  rw [dateTimeText_eq]
  simp

/-- What is read from the text of a point in time. -/
theorem readDateTime?_dateTimeText (moment : DateTime) :
    readDateTime? (dateTimeText 'T' moment) = some moment.asRead := by
  have length := length_dateText moment.date
  have text := dateTimeText_eq 'T' moment
  have bytes := length_le_byteLength (dateTimeText 'T' moment)
  have date : (dateTimeText 'T' moment).take 10 = dateText moment.date := by
    rw [text, List.take_append_of_le_length (by omega), List.take_of_length_le (by omega)]
  have behind : (dateTimeText 'T' moment).drop 10 =
      'T' :: (timeText moment.time ++ offsetPart moment.offset) := by
    rw [text, List.drop_append_of_le_length (by omega), List.drop_of_length_le (by omega),
      List.nil_append]
  have dateLength : dateLength? (dateTimeText 'T' moment) = some 10 := by
    rw [text]
    exact dateLength?_dateText _ _
  have long : ¬byteLength (dateTimeText 'T' moment) < 7 := by
    have atLeast : 10 ≤ (dateTimeText 'T' moment).length := by
      rw [text, List.length_append]
      omega
    omega
  simp [readDateTime?, long, dateLength, date, readDatePrefix?_dateText, behind,
    readTime?_timeText, DateTime.asRead]

/-- A point in time that was read is legible. -/
theorem isLegible_of_readDateTime? {text : List Char} {moment : DateTime}
    (read : readDateTime? text = some moment) : moment.IsLegible := by
  have ofOffset : ∀ {text : List Char} {offset : Option Offset},
      readOffset? text = some offset → ∀ present, offset = some present → present.IsLegible := by
    rintro text offset offsetRead present rfl
    unfold readOffset? at offsetRead
    split at offsetRead
    · cases offsetRead
    · split at offsetRead
      · cases offsetRead
        exact .inl rfl
      · cases offsetRead
    · simp only [Option.bind_eq_bind, Option.bind_eq_some_iff] at offsetRead
      obtain ⟨reading, -, meant⟩ := offsetRead
      split at meant
      · cases meant
      · simp only [Option.map_eq_some_iff, Option.some.injEq, exists_eq_right] at meant
        exact isLegible_of_clockOffset? meant
  unfold readDateTime? at read
  split at read
  · cases read
  · simp only [Option.bind_eq_bind, Option.bind_eq_some_iff] at read
    obtain ⟨length, -, date, -, rest⟩ := read
    split at rest
    · cases rest
      rintro offset present
      cases present
    · simp only [Option.bind_eq_some_iff] at rest
      obtain ⟨⟨time, offset⟩, timeRead, same⟩ := rest
      cases same
      simp only [readTime?, Option.bind_eq_bind, Option.bind_eq_some_iff] at timeRead
      obtain ⟨reading, -, timeRest⟩ := timeRead
      split at timeRest
      · cases timeRest
      · simp only [Option.bind_eq_some_iff] at timeRest
        obtain ⟨read, offsetRead, named, -, same⟩ := timeRest
        cases same
        exact ofOffset offsetRead

/-- The characters of a point in time belong to its clocks, or are signs or the letter between date
and time. -/
theorem mem_dateTimeText {moment : DateTime} {c : Char} (member : c ∈ dateTimeText 'T' moment) :
    IsClockChar c ∨ c = '+' ∨ c = '-' ∨ c = 'T' := by
  rw [dateTimeText_eq] at member
  simp only [List.mem_append, List.mem_cons] at member
  rcases member with inDate | rfl | inTime | inOffset
  · rcases mem_dateText inDate with digit | rfl
    · exact .inl (.inl digit)
    · exact .inr (.inr (.inl rfl))
  · exact .inr (.inr (.inr rfl))
  · exact .inl (isClockChar_of_mem_timeText inTime)
  · cases present : moment.offset with
    | none => simp [offsetPart, present] at inOffset
    | some offset =>
      rw [present] at inOffset
      rcases mem_offsetText inOffset with isClock | rfl | rfl
      · exact .inl isClock
      · exact .inr (.inl rfl)
      · exact .inr (.inr (.inl rfl))

/-- A point in time is written without the letter for Coordinated Universal Time. -/
theorem spellOutUtc_dateTimeText (moment : DateTime) :
    Value.spellOutUtc (dateTimeText 'T' moment) = dateTimeText 'T' moment := by
  have notUtc : ∀ c ∈ dateTimeText 'T' moment, c ≠ 'Z' := by
    intro c member
    rcases mem_dateTimeText member with isClock | rfl | rfl | rfl
    · exact isClock.ne (by decide)
    all_goals decide
  have kept : ∀ text : List Char, (∀ c ∈ text, c ≠ 'Z') → Value.spellOutUtc text = text := by
    intro text foreign
    induction text with
    | nil => rfl
    | cons c rest inductionHypothesis =>
      have restKept := inductionHypothesis fun other member => foreign other (.tail _ member)
      simp only [Value.spellOutUtc, List.flatMap_cons] at restKept ⊢
      rw [restKept]
      simp [foreign c (.head _)]
  exact kept _ notUtc

/-- Digits are no blanks. -/
theorem isBlank_of_isDigit {c : Char} (digit : Numeral.isDigit c = true) :
    Text.isBlank c = false := by
  simp only [Numeral.isDigit, Bool.and_eq_true, decide_eq_true_eq, Char.le_def,
    UInt32.le_iff_toNat_le] at digit
  have low : 48 ≤ c.toNat := digit.1
  have high : c.toNat ≤ 57 := digit.2
  simp only [Text.isBlank, Text.blankRanges, List.any_cons, List.any_nil, Bool.or_false,
    Bool.or_eq_false_iff, Bool.and_eq_false_iff, decide_eq_false_iff_not]
  omega

/-- The characters of a date are no blanks. -/
theorem isBlank_of_mem_dateText {day : Date} {c : Char} (member : c ∈ dateText day) :
    Text.isBlank c = false := by
  rcases mem_dateText member with digit | rfl
  · exact isBlank_of_isDigit digit
  · rfl

/-- The characters of a point in time are no blanks. -/
theorem isBlank_of_mem_dateTimeText {moment : DateTime} {c : Char}
    (member : c ∈ dateTimeText 'T' moment) : Text.isBlank c = false := by
  rcases mem_dateTimeText member with (digit | rfl | rfl) | rfl | rfl | rfl
  · exact isBlank_of_isDigit digit
  all_goals rfl

/-- The blanks in front of a text are dropped, up to its first character. -/
theorem dropWhile_isBlank_append {blanks text : List Char}
    (blank : ∀ c ∈ blanks, Text.isBlank c = true)
    (dark : ∀ c ∈ text.head?, Text.isBlank c = false) :
    (blanks ++ text).dropWhile Text.isBlank = text := by
  rw [List.dropWhile_append_of_pos blank]
  cases text with
  | nil => rfl
  | cons c rest => rw [List.dropWhile_cons_of_neg (by simp [dark c rfl])]

/-- Trimming a text without blanks that has blanks around it leaves the text. -/
theorem trimList_padded {before text after : List Char}
    (blankBefore : ∀ c ∈ before, Text.isBlank c = true)
    (dark : ∀ c ∈ text, Text.isBlank c = false)
    (blankAfter : ∀ c ∈ after, Text.isBlank c = true) :
    Text.trimList (before ++ text ++ after) = text := by
  have blankBehind : ∀ c ∈ after.reverse, Text.isBlank c = true := fun c member =>
    blankAfter c (List.mem_reverse.mp member)
  cases text with
  | nil =>
    have blank : ∀ c ∈ before ++ after, Text.isBlank c = true := fun c member =>
      (List.mem_append.mp member).elim (blankBefore c) (blankAfter c)
    have dropped : (before ++ after ++ []).dropWhile Text.isBlank = [] :=
      dropWhile_isBlank_append blank (by simp)
    rw [List.append_nil] at dropped ⊢
    rw [Text.trimList, dropped]
    rfl
  | cons first rest =>
    have darkLast : ∀ c ∈ (first :: rest).reverse.head?, Text.isBlank c = false := fun c isLast =>
      dark c (List.mem_reverse.mp (List.mem_of_mem_head? isLast))
    rw [Text.trimList, List.append_assoc, dropWhile_isBlank_append blankBefore, List.reverse_append,
      dropWhile_isBlank_append blankBehind darkLast, List.reverse_reverse]
    intro c isFirst
    cases isFirst
    exact dark first (.head _)

/-- The text of a date has no blanks to trim. -/
theorem trimList_dateText (day : Date) : Text.trimList (dateText day) = dateText day := by
  have padded : Text.trimList ([] ++ dateText day ++ []) = dateText day :=
    trimList_padded (List.forall_mem_nil _) (fun c member => isBlank_of_mem_dateText member)
      (List.forall_mem_nil _)
  rwa [List.nil_append, List.append_nil] at padded

end Iso

end FormEngine
