import FormEngine.Pattern.Matcher
import Mathlib.Computability.Language

/-!
# Patterns and their languages

A pattern without groups and references has a language: the texts that it leads past. From any place
the search gets through such a pattern, and on to what follows it, exactly if a text of the language
comes next and what follows succeeds behind it. In which order the search tries the texts does not
matter for that. Single characters have languages, and rows and greedy repetitions of patterns that
have them do.
-/

namespace FormEngine.Pattern

/-- The place behind a text that comes next, with the rest still ahead. -/
def Place.past (place : Place) (taken rest : List Char) : Place :=
  { place with before := taken.reverse ++ place.before, after := rest }

@[simp] theorem Place.past_nil (place : Place) : place.past [] place.after = place := rfl

@[simp] theorem Place.past_past (place : Place) (first second middle rest : List Char) :
    (place.past first middle).past second rest = place.past (first ++ second) rest := by
  simp [past]

@[simp] theorem Place.after_past (place : Place) (taken rest : List Char) :
    (place.past taken rest).after = rest := rfl

@[simp] theorem Place.offset_past (place : Place) (taken rest : List Char) :
    (place.past taken rest).offset = taken.length + place.offset := by
  simp [past, offset]

/-- A pattern has a language if it leads on past the texts of the language, from any place where
they come next, and in no other way. -/
def Node.HasLanguage (node : Node) (language : Language Char) : Prop :=
  ∀ (next : Next) (place : Place), (node.run next place).isSome = true ↔
    ∃ taken ∈ language, ∃ rest, place.after = taken ++ rest ∧
      (next (place.past taken rest)).isSome = true

/-- The texts of one character of a set. -/
def CharSet.letters (set : CharSet) : Language Char :=
  {text | ∃ c, set.holds c = true ∧ text = [c]}

theorem CharSet.mem_letters {set : CharSet} {text : List Char} :
    text ∈ set.letters ↔ ∃ c, set.holds c = true ∧ text = [c] := Iff.rfl

/-- A number of characters of a set. -/
theorem CharSet.mem_letters_pow {set : CharSet} {count : Nat} {text : List Char} :
    text ∈ set.letters ^ count ↔ text.length = count ∧ ∀ c ∈ text, set.holds c = true := by
  induction count generalizing text with
  | zero =>
    rw [pow_zero, Language.mem_one, List.length_eq_zero_iff]
    refine ⟨?_, And.left⟩
    rintro rfl
    exact ⟨rfl, List.forall_mem_nil _⟩
  | succ count inductionHypothesis =>
    rw [pow_succ', Language.mem_mul]
    constructor
    · rintro ⟨_, ⟨c, holds, rfl⟩, rest, inRest, rfl⟩
      obtain ⟨length, all⟩ := inductionHypothesis.mp inRest
      exact ⟨by simp [length], List.forall_mem_cons.mpr ⟨holds, all⟩⟩
    · rintro ⟨length, all⟩
      cases text with
      | nil => cases length
      | cons c rest =>
        obtain ⟨holds, later⟩ := List.forall_mem_cons.mp all
        exact ⟨[c], ⟨c, holds, rfl⟩, rest,
          inductionHypothesis.mpr ⟨Nat.succ.inj length, later⟩, rfl⟩

/-- The empty pattern leads past nothing. -/
theorem Node.HasLanguage.empty : Node.empty.HasLanguage 1 := by
  intro next place
  simp [Node.run, Language.mem_one]

/-- A character leads past one character of its set. -/
theorem Node.HasLanguage.char (set : CharSet) : (Node.char set).HasLanguage set.letters := by
  intro next place
  rw [Node.run, Place.step?]
  cases coming : place.after with
  | nil => simp [CharSet.mem_letters]
  | cons c rest =>
    by_cases holds : set.holds c = true
    · simp only [if_pos holds, CharSet.mem_letters]
      constructor
      · intro succeeds
        exact ⟨[c], ⟨c, holds, rfl⟩, rest, rfl, succeeds⟩
      · rintro ⟨_, ⟨other, -, rfl⟩, later, same, succeeds⟩
        cases same
        exact succeeds
    · simp only [if_neg holds, CharSet.mem_letters, Option.isSome_none, Bool.false_eq_true,
        false_iff]
      rintro ⟨_, ⟨other, otherHolds, rfl⟩, later, same, -⟩
      cases same
      exact holds otherHolds

/-- Two patterns in a row lead past a text of the one and then a text of the other. -/
theorem Node.HasLanguage.seq {first second : Node} {language other : Language Char}
    (firstHas : first.HasLanguage language) (secondHas : second.HasLanguage other) :
    (Node.seq first second).HasLanguage (language * other) := by
  intro next place
  rw [Node.run, firstHas]
  constructor
  · rintro ⟨taken, inLanguage, rest, coming, succeeds⟩
    obtain ⟨more, inOther, later, comingNext, succeedsLater⟩ := (secondHas _ _).mp succeeds
    rw [Place.after_past] at comingNext
    refine ⟨taken ++ more, Language.append_mem_mul inLanguage inOther, later, ?_, ?_⟩
    · rw [coming, comingNext, List.append_assoc]
    · rwa [Place.past_past] at succeedsLater
  · rintro ⟨_, inBoth, rest, coming, succeeds⟩
    obtain ⟨taken, inLanguage, more, inOther, rfl⟩ := Language.mem_mul.mp inBoth
    refine ⟨taken, inLanguage, more ++ rest, by rw [coming, List.append_assoc], ?_⟩
    refine (secondHas _ _).mpr ⟨more, inOther, rest, rfl, ?_⟩
    rwa [Place.past_past]

/-- The texts that are made of a number of texts of a language, of which at least and at most so
many are allowed. -/
def repetitions (least : Nat) (most : Option Nat) (language : Language Char) : Language Char :=
  {text | ∃ count, least ≤ count ∧ (∀ limit ∈ most, count ≤ limit) ∧ text ∈ language ^ count}

theorem mayRepeat_iff {most : Option Nat} {count : Nat} :
    mayRepeat most count = true ↔ ∀ limit ∈ most, count + 1 ≤ limit := by
  cases most with
  | none => simp [mayRepeat]
  | some limit =>
    simp only [mayRepeat, Option.all_some, decide_eq_true_eq, Option.mem_some, forall_eq',
      Nat.succ_le_iff]

section Greedy

/-- With some of its repetitions done, a greedy repetition still finds texts of the language of its
body ahead: so many that the count comes out right, and what follows succeeds behind them. -/
structure Continues (language : Language Char) (least : Nat) (most : Option Nat) (next : Next)
    (count : Nat) (place : Place) (pieces : List (List Char)) (rest : List Char) : Prop where
  inLanguage : ∀ piece ∈ pieces, piece ∈ language
  enough : least ≤ count + pieces.length
  notTooMany : ∀ limit ∈ most, count + pieces.length ≤ limit
  coming : place.after = pieces.flatten ++ rest
  done : (next (place.past pieces.flatten rest)).isSome = true

variable {body : Node} {language : Language Char} {least : Nat} {most : Option Nat} {next : Next}
  {count : Nat} {place : Place} {rest : List Char}

/-- It may end here if the count is right and what follows succeeds. -/
theorem continues_nil_iff : Continues language least most next count place [] rest ↔
    least ≤ count ∧ (∀ limit ∈ most, count ≤ limit) ∧ place.after = rest ∧
      (next place).isSome = true := by
  constructor
  · rintro ⟨-, enough, notTooMany, coming, done⟩
    rw [List.flatten_nil, List.nil_append] at coming
    subst coming
    exact ⟨enough, notTooMany, rfl, done⟩
  · rintro ⟨enough, notTooMany, rfl, done⟩
    exact ⟨List.forall_mem_nil _, enough, notTooMany, rfl, done⟩

/-- It goes on with a text of the language if it continues from behind that. -/
theorem continues_cons_iff {piece : List Char} {pieces : List (List Char)} :
    Continues language least most next count place (piece :: pieces) rest ↔
      piece ∈ language ∧ ∃ later, place.after = piece ++ later ∧
        Continues language least most next (count + 1) (place.past piece later) pieces rest := by
  have sameCount : count + (pieces.length + 1) = count + 1 + pieces.length := by omega
  constructor
  · rintro ⟨inLanguage, enough, notTooMany, coming, done⟩
    rw [List.length_cons, sameCount] at enough notTooMany
    rw [List.flatten_cons, List.append_assoc] at coming
    rw [List.flatten_cons, ← Place.past_past] at done
    obtain ⟨first, others⟩ := List.forall_mem_cons.mp inLanguage
    exact ⟨first, _, coming, others, enough, notTooMany, rfl, done⟩
  · rintro ⟨first, later, coming, others, enough, notTooMany, comingLater, done⟩
    rw [Place.after_past] at comingLater
    rw [Place.past_past] at done
    refine ⟨List.forall_mem_cons.mpr ⟨first, others⟩, ?_, ?_, ?_, done⟩
    · rwa [List.length_cons, sameCount]
    · rwa [List.length_cons, sameCount]
    · rw [coming, comingLater, List.flatten_cons, List.append_assoc]

/-- If the loop succeeds, it continued with texts of the language of its body. -/
theorem exists_continues_of_greedyLoop (has : body.HasLanguage language)
    (consistent : ∀ limit ∈ most, least ≤ limit) {fuel : Nat} {origin : Option Nat}
    (within : ∀ limit ∈ most, count ≤ limit)
    (succeeds : (greedyLoop body.run least most next fuel count origin place).isSome = true) :
    ∃ pieces rest, Continues language least most next count place pieces rest := by
  induction fuel generalizing count origin place with
  | zero => cases succeeds
  | succ fuel inductionHypothesis =>
    -- The body is tried in two cases, the required repetitions and the optional ones.
    have more {start : Option Nat} (allowed : ∀ limit ∈ most, count + 1 ≤ limit)
        (through : (body.run (greedyLoop body.run least most next fuel (count + 1) start)
          place).isSome = true) :
        ∃ pieces rest, Continues language least most next count place pieces rest := by
      obtain ⟨piece, inLanguage, later, coming, loops⟩ := (has _ _).mp through
      obtain ⟨pieces, rest, continues⟩ := inductionHypothesis allowed loops
      exact ⟨piece :: pieces, rest, continues_cons_iff.mpr ⟨inLanguage, later, coming, continues⟩⟩
    rw [greedyLoop] at succeeds
    by_cases required : count < least
    · rw [if_pos required] at succeeds
      apply more _ succeeds
      intro limit isLimit
      exact Nat.lt_of_lt_of_le required (consistent limit isLimit)
    · have stop (done : (next place).isSome = true) :
          ∃ pieces rest, Continues language least most next count place pieces rest :=
        ⟨[], _, continues_nil_iff.mpr ⟨Nat.not_lt.mp required, within, rfl, done⟩⟩
      rw [if_neg required] at succeeds
      split at succeeds
      next optional =>
        rw [Option.isSome_or, Bool.or_eq_true] at succeeds
        rcases succeeds with through | done
        · exact more (mayRepeat_iff.mp (Bool.and_eq_true_iff.mp optional).1) through
        · exact stop done
      next => exact stop succeeds

/-- If the loop can continue, it succeeds. An optional repetition that matched nothing would not be
followed by another, but empty texts beyond the required number can be left out. -/
theorem Continues.isSome_greedyLoop (has : body.HasLanguage language) {pieces : List (List Char)}
    {fuel : Nat} {origin : Option Nat}
    (continues : Continues language least most next count place pieces rest)
    (advanced : ∀ start ∈ origin, start < place.offset)
    (fuelled : least - count + place.after.length < fuel) :
    (greedyLoop body.run least most next fuel count origin place).isSome = true := by
  induction pieces generalizing fuel count origin place with
  | nil =>
    obtain ⟨fuel, rfl⟩ := Nat.exists_eq_succ_of_ne_zero (Nat.ne_zero_of_lt fuelled)
    obtain ⟨enough, -, -, done⟩ := continues_nil_iff.mp continues
    rw [greedyLoop, if_neg (Nat.not_lt.mpr enough)]
    split
    · rw [Option.isSome_or, done, Bool.or_true]
    · exact done
  | cons piece pieces inductionHypothesis =>
    obtain ⟨inLanguage, later, coming, continuesLater⟩ := continues_cons_iff.mp continues
    obtain ⟨fuel, rfl⟩ := Nat.exists_eq_succ_of_ne_zero (Nat.ne_zero_of_lt fuelled)
    have lengths : place.after.length = piece.length + later.length := by
      rw [coming, List.length_append]
    by_cases required : count < least
    · rw [greedyLoop, if_pos required, has]
      refine ⟨piece, inLanguage, later, coming, inductionHypothesis continuesLater ?_ ?_⟩
      · intro start isStart
        have before := advanced start isStart
        rw [Place.offset_past]
        omega
      · rw [Place.after_past]
        omega
    · by_cases nothing : piece = []
      · subst nothing
        apply inductionHypothesis _ advanced fuelled
        refine ⟨continuesLater.inLanguage, by omega, ?_, continues.coming, continues.done⟩
        intro limit isLimit
        have bound := continuesLater.notTooMany limit isLimit
        omega
      · have grows := List.length_pos_of_ne_nil nothing
        have allowed : mayRepeat most count = true := mayRepeat_iff.mpr fun limit isLimit => by
          have bound := continuesLater.notTooMany limit isLimit
          omega
        have elsewhere : (origin != some place.offset) = true := by
          rw [bne_iff_ne]
          intro same
          exact Nat.lt_irrefl _ (advanced _ same)
        rw [greedyLoop, if_neg required, if_pos (Bool.and_eq_true_iff.mpr ⟨allowed, elsewhere⟩),
          Option.isSome_or, Bool.or_eq_true, has]
        refine .inl ⟨piece, inLanguage, later, coming, inductionHypothesis continuesLater ?_ ?_⟩
        · intro start isStart
          obtain rfl := Option.some.inj isStart
          rw [Place.offset_past]
          omega
        · rw [Place.after_past]
          omega

/-- A greedy repetition leads past allowedly many texts of the language of its body. -/
theorem Node.HasLanguage.greedy (has : body.HasLanguage language)
    (consistent : ∀ limit ∈ most, least ≤ limit) :
    (Node.repeated .greedy least most body).HasLanguage (repetitions least most language) := by
  intro next place
  rw [Node.run]
  constructor
  · intro succeeds
    obtain ⟨pieces, rest, areIn, enough, notTooMany, coming, done⟩ :=
      exists_continues_of_greedyLoop has consistent (fun _ _ => Nat.zero_le _) succeeds
    rw [Nat.zero_add] at enough notTooMany
    refine ⟨pieces.flatten, ⟨pieces.length, enough, notTooMany, ?_⟩, rest, coming, done⟩
    exact Language.mem_pow.mpr ⟨pieces, rfl, rfl, areIn⟩
  · rintro ⟨_, ⟨count, enough, notTooMany, inPower⟩, rest, coming, done⟩
    obtain ⟨pieces, rfl, rfl, areIn⟩ := Language.mem_pow.mp inPower
    have continues : Continues language least most next 0 place pieces rest := by
      rw [← Nat.zero_add pieces.length] at enough notTooMany
      exact ⟨areIn, enough, notTooMany, coming, done⟩
    apply continues.isSome_greedyLoop has
    · intro start isStart
      cases isStart
    · simp only [repetitionFuel, Place.extent]
      omega

end Greedy

/-- Allowedly many characters of a set. -/
theorem mem_repetitions_letters {least : Nat} {most : Option Nat} {set : CharSet}
    {text : List Char} : text ∈ repetitions least most set.letters ↔
      least ≤ text.length ∧ (∀ limit ∈ most, text.length ≤ limit) ∧
        ∀ c ∈ text, set.holds c = true := by
  constructor
  · rintro ⟨count, enough, notTooMany, inPower⟩
    obtain ⟨rfl, all⟩ := CharSet.mem_letters_pow.mp inPower
    exact ⟨enough, notTooMany, all⟩
  · rintro ⟨enough, notTooMany, all⟩
    exact ⟨text.length, enough, notTooMany, CharSet.mem_letters_pow.mpr ⟨rfl, all⟩⟩

end FormEngine.Pattern
