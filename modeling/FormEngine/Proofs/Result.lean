import FormEngine.Fault
import Mathlib.Data.List.Forall2

/-!
# Results and their parts

A computation that may fail is taken apart by what its steps gave. The lemmas speak of any type of
failure; the ones on lists say where a list of steps stops.
-/

namespace FormEngine.Result

variable {ε α β γ : Type}

/-- A step that succeeds hands its value on. -/
@[simp] theorem ok_bind (value : α) (rest : α → Except ε β) :
    (Except.ok value >>= rest) = rest value := rfl

/-- A step that fails ends the sequence. -/
@[simp] theorem error_bind (fault : ε) (rest : α → Except ε β) :
    (Except.error fault >>= rest) = .error fault := rfl

/-- A step that only computes succeeds. -/
@[simp] theorem pure_eq_ok (value : α) : (pure value : Except ε α) = .ok value := rfl

/-- A step that throws fails. -/
@[simp] theorem throw_eq_error (fault : ε) : (throw fault : Except ε α) = .error fault := rfl

/-- A success has a value. -/
theorem exists_of_isOk {result : Except ε α} (succeeds : result.isOk = true) :
    ∃ value, result = .ok value := by
  cases result with
  | error fault => cases succeeds
  | ok value => exact ⟨value, rfl⟩

/-- A success is what is left when failures are not told apart. -/
theorem toOption_eq_some_iff {result : Except ε α} {value : α} :
    result.toOption = some value ↔ result = .ok value := by
  cases result <;> simp [Except.toOption]

/-- A sequence of steps succeeds exactly when its first step does and the rest goes on from it. -/
theorem bind_eq_ok_iff {first : Except ε α} {rest : α → Except ε β} {result : β} :
    first >>= rest = .ok result ↔ ∃ value, first = .ok value ∧ rest value = .ok result := by
  cases first with
  | error fault => simp [bind, Except.bind]
  | ok value => simp [bind, Except.bind]

/-- A sequence of steps fails exactly with the failure of its first step or of the rest. -/
theorem bind_eq_error_iff {first : Except ε α} {rest : α → Except ε β} {fault : ε} :
    first >>= rest = .error fault ↔
      first = .error fault ∨ ∃ value, first = .ok value ∧ rest value = .error fault := by
  cases first with
  | error other => simp [bind, Except.bind]
  | ok value => simp [bind, Except.bind]

/-- A mapped result is a success exactly when the result is. -/
theorem map_eq_ok_iff {result : Except ε α} {f : α → β} {value : β} :
    result.map f = .ok value ↔ ∃ inner, result = .ok inner ∧ f inner = value := by
  cases result with
  | error fault => simp [Except.map]
  | ok inner => simp [Except.map]

/-- Mapping a result keeps its failures. -/
theorem map_eq_error_iff {result : Except ε α} {f : α → β} {fault : ε} :
    result.map f = .error fault ↔ result = .error fault := by
  cases result with
  | error other => simp [Except.map]
  | ok inner => simp [Except.map]

/-- Steps that all succeed give the list of what they give. -/
theorem mapM_map_eq_ok {embed : α → γ} {step : γ → Except ε β} {value : α → β} {items : List α}
    (each : ∀ item ∈ items, step (embed item) = .ok (value item)) :
    (items.map embed).mapM step = .ok (items.map value) := by
  induction items with
  | nil => rfl
  | cons item rest inductionHypothesis =>
    rw [List.map_cons, List.mapM_cons, each item (.head _),
      inductionHypothesis fun other member => each other (.tail _ member)]
    rfl

/-- A list of steps that all succeed succeeds. -/
theorem exists_mapM_eq_ok {step : α → Except ε β} {items : List α}
    (each : ∀ item ∈ items, ∃ value, step item = .ok value) :
    ∃ values, items.mapM step = .ok values := by
  induction items with
  | nil => exact ⟨[], rfl⟩
  | cons item rest inductionHypothesis =>
    obtain ⟨value, given⟩ := each item (.head _)
    obtain ⟨values, restGiven⟩ := inductionHypothesis fun other member => each other (.tail _ member)
    exact ⟨value :: values, by simp [List.mapM_cons, given, restGiven]⟩

/-- A list of steps succeeds exactly when every step gives its part. -/
theorem mapM_eq_ok_iff {step : α → Except ε β} {items : List α} {values : List β} :
    items.mapM step = .ok values ↔
      List.Forall₂ (fun item value => step item = .ok value) items values := by
  induction items generalizing values with
  | nil =>
    rw [List.mapM_nil, List.forall₂_nil_left_iff]
    constructor
    · intro same
      cases same
      rfl
    · rintro rfl
      rfl
  | cons item rest inductionHypothesis =>
    rw [List.mapM_cons, List.forall₂_cons_left_iff]
    simp only [bind_eq_ok_iff, inductionHypothesis]
    constructor
    · rintro ⟨value, given, values, restGiven, same⟩
      cases same
      exact ⟨value, values, given, restGiven, rfl⟩
    · rintro ⟨value, values, given, restGiven, rfl⟩
      exact ⟨value, given, values, restGiven, rfl⟩

/-- Every part of what a list of steps gives comes from one of them. -/
theorem exists_of_mem_mapM {step : α → Except ε β} {items : List α} {values : List β}
    (given : items.mapM step = .ok values) {value : β} (member : value ∈ values) :
    ∃ item ∈ items, step item = .ok value := by
  rw [mapM_eq_ok_iff] at given
  induction given with
  | nil => cases member
  | @cons item head items values headGiven _ inductionHypothesis =>
    rcases List.mem_cons.mp member with rfl | later
    · exact ⟨item, .head _, headGiven⟩
    · obtain ⟨other, inItems, otherGiven⟩ := inductionHypothesis later
      exact ⟨other, .tail _ inItems, otherGiven⟩

/-- Where every item can be judged, filtering by steps keeps the items that are judged so. -/
theorem filterM_eq_ok {step : α → Except ε Bool} {keep : α → Bool} {items : List α}
    (each : ∀ item ∈ items, step item = .ok (keep item)) :
    items.filterM step = .ok (items.filter keep) := by
  have gathered : ∀ kept : List α,
      items.filterAuxM step kept = .ok ((items.filter keep).reverse ++ kept) := by
    induction items with
    | nil => exact fun kept => rfl
    | cons item rest inductionHypothesis =>
      intro kept
      have later := inductionHypothesis fun other member => each other (.tail _ member)
      simp only [List.filterAuxM, each item (.head _), ok_bind, later, List.filter_cons]
      cases keep item <;> simp
  simp [List.filterM, gathered]

/-- Filtering by steps fails on the first item that can not be judged. -/
theorem filterM_eq_error {step : α → Except ε Bool} {before after : List α} {item : α} {fault : ε}
    (each : ∀ earlier ∈ before, ∃ keep, step earlier = .ok keep) (fails : step item = .error fault) :
    (before ++ item :: after).filterM step = .error fault := by
  have ended : ∀ kept : List α, (before ++ item :: after).filterAuxM step kept = .error fault := by
    induction before with
    | nil => exact fun kept => by simp [List.filterAuxM, fails]
    | cons first rest inductionHypothesis =>
      intro kept
      obtain ⟨keep, judged⟩ := each first (.head _)
      have later := inductionHypothesis fun other member => each other (.tail _ member)
      simp only [List.cons_append, List.filterAuxM, judged, ok_bind, later]
  simp [List.filterM, ended]

/-- A result that fails, and in a certain way. -/
def FailsAs (holds : ε → Prop) (result : Except ε α) : Prop :=
  ∃ fault, result = .error fault ∧ holds fault

variable {holds : ε → Prop}

@[simp] theorem not_failsAs_ok (value : α) : ¬FailsAs holds (.ok value : Except ε α) := by
  rintro ⟨fault, same, -⟩
  cases same

@[simp] theorem failsAs_error_iff {fault : ε} :
    FailsAs holds (.error fault : Except ε α) ↔ holds fault :=
  ⟨fun ⟨_, same, holdsOf⟩ => by cases same; exact holdsOf, fun holdsOf => ⟨fault, rfl, holdsOf⟩⟩

/-- A sequence of steps fails in a certain way if its first step or the rest does. -/
theorem failsAs_bind_iff {first : Except ε α} {rest : α → Except ε β} :
    FailsAs holds (first >>= rest) ↔
      FailsAs holds first ∨ ∃ value, first = .ok value ∧ FailsAs holds (rest value) := by
  cases first with
  | error fault => simp
  | ok value => simp

/-- Mapping a result keeps its ways to fail. -/
@[simp] theorem failsAs_map_iff {result : Except ε α} {f : α → β} :
    FailsAs holds (result.map f) ↔ FailsAs holds result := by
  simp only [FailsAs, map_eq_error_iff]

/-- A result that fails in a certain way, if it fails at all. -/
def FailsOnly (holds : ε → Prop) (result : Except ε α) : Prop :=
  ∀ fault, result = .error fault → holds fault

@[simp] theorem failsOnly_ok (value : α) : FailsOnly holds (.ok value : Except ε α) := by
  intro fault fails
  cases fails

@[simp] theorem failsOnly_error_iff {fault : ε} :
    FailsOnly holds (.error fault : Except ε α) ↔ holds fault :=
  ⟨fun only => only fault rfl, fun holdsOf _ same => by cases same; exact holdsOf⟩

/-- What fails only in one way fails only in another that the one is a case of. -/
theorem FailsOnly.imp {result : Except ε α} {others : ε → Prop} (only : FailsOnly holds result)
    (implies : ∀ fault, holds fault → others fault) : FailsOnly others result :=
  fun fault fails => implies fault (only fault fails)

/-- A sequence of steps fails only in a certain way if its first step and the rest do. -/
theorem failsOnly_bind_iff {first : Except ε α} {rest : α → Except ε β} :
    FailsOnly holds (first >>= rest) ↔
      FailsOnly holds first ∧ ∀ value, first = .ok value → FailsOnly holds (rest value) := by
  cases first with
  | error fault => simp
  | ok value => simp

/-- Mapping a result keeps its only ways to fail. -/
@[simp] theorem failsOnly_map_iff {result : Except ε α} {f : α → β} :
    FailsOnly holds (result.map f) ↔ FailsOnly holds result := by
  simp only [FailsOnly, map_eq_error_iff]

/-- A choice of results fails only in a certain way if the chosen one does. -/
@[simp] theorem failsOnly_ite_iff {condition : Prop} [Decidable condition]
    {first second : Except ε α} :
    FailsOnly holds (if condition then first else second) ↔
      if condition then FailsOnly holds first else FailsOnly holds second := by
  split <;> rfl

/-- Steps from one to the next over a list fail only in a certain way if each of them does. -/
theorem failsOnly_foldlM {step : β → α → Except ε β} (items : List α)
    (each : ∀ value, ∀ item ∈ items, FailsOnly holds (step value item)) (start : β) :
    FailsOnly holds (items.foldlM step start) := by
  induction items generalizing start with
  | nil => simp
  | cons item rest inductionHypothesis =>
    rw [List.foldlM_cons, failsOnly_bind_iff]
    exact ⟨each start item (.head _), fun value _ =>
      inductionHypothesis (fun value other member => each value other (.tail _ member)) value⟩

/-- Steps from one to the next over a list succeed only if each of them does. -/
theorem exists_of_mem_foldlM {step : β → α → Except ε β} {items : List α} {start final : β}
    (done : items.foldlM step start = .ok final) {item : α} (member : item ∈ items) :
    ∃ before after, step before item = .ok after := by
  induction items generalizing start with
  | nil => cases member
  | cons first rest inductionHypothesis =>
    rw [List.foldlM_cons] at done
    obtain ⟨between, here, later⟩ := bind_eq_ok_iff.mp done
    rcases List.mem_cons.mp member with rfl | inRest
    · exact ⟨start, between, here⟩
    · exact inductionHypothesis later inRest

/-- What each of such steps keeps holds after all of them. -/
theorem of_foldlM_eq_ok (keeps : β → Prop) {step : β → α → Except ε β} {items : List α}
    {start final : β} (done : items.foldlM step start = .ok final) (atStart : keeps start)
    (each : ∀ value, ∀ item ∈ items, ∀ next, step value item = .ok next → keeps value → keeps next) :
    keeps final := by
  induction items generalizing start with
  | nil =>
    obtain rfl := Except.ok.inj done
    exact atStart
  | cons first rest inductionHypothesis =>
    rw [List.foldlM_cons] at done
    obtain ⟨between, here, later⟩ := bind_eq_ok_iff.mp done
    exact inductionHypothesis later (each start first (.head _) between here atStart)
      fun value item member => each value item (.tail _ member)

/-- A list of steps fails only in a certain way if each of them does. -/
theorem failsOnly_mapM {step : α → Except ε β} {items : List α}
    (each : ∀ item ∈ items, FailsOnly holds (step item)) : FailsOnly holds (items.mapM step) := by
  induction items with
  | nil => simp
  | cons item rest inductionHypothesis =>
    have restFails := inductionHypothesis fun other member => each other (.tail _ member)
    simp [List.mapM_cons, failsOnly_bind_iff, each item (.head _), restFails]

/-- What fails only in other ways does not fail in a certain way. -/
theorem FailsOnly.not_failsAs {result : Except ε α} (only : FailsOnly (¬holds ·) result) :
    ¬FailsAs holds result := by
  rintro ⟨fault, fails, holdsOf⟩
  exact only fault fails holdsOf

/-- Two results are alike if they have the same value, or failures of the same kind. -/
inductive Alike {κ : Type} (kind : ε → κ) : Except ε α → Except ε α → Prop
  | ok (value : α) : Alike kind (.ok value) (.ok value)
  | error {fault other : ε} (same : kind fault = kind other) :
      Alike kind (.error fault) (.error other)

section Alike

variable {κ : Type} {kind : ε → κ}

theorem Alike.refl (result : Except ε α) : Alike kind result result := by
  cases result with
  | error fault => exact .error rfl
  | ok value => exact .ok value

/-- Sequences of steps that are alike are alike. -/
theorem Alike.bind {first other : Except ε α} {rest otherRest : α → Except ε β}
    (firstAlike : Alike kind first other)
    (restAlike : ∀ value, Alike kind (rest value) (otherRest value)) :
    Alike kind (first >>= rest) (other >>= otherRest) := by
  cases firstAlike with
  | ok value => exact restAlike value
  | error same => exact .error same

/-- Results that fail in the same case, and are the same in the other, are alike. -/
theorem alike_ite {condition : Prop} [Decidable condition] {fault other : ε} {result : Except ε α}
    (same : kind fault = kind other) :
    Alike kind (if condition then .error fault else result)
      (if condition then .error other else result) := by
  split
  · exact .error same
  · exact .refl result

/-- Steps over two lists that stand for one list are alike if the steps for each of its items are. -/
theorem alike_mapM {step : α → Except ε β} {standsFor : γ → α → Prop} {meant : List γ}
    {items others : List α} (stand : List.Forall₂ standsFor meant items)
    (otherStand : List.Forall₂ standsFor meant others)
    (each : ∀ {one item other}, standsFor one item → standsFor one other →
      Alike kind (step item) (step other)) :
    Alike kind (items.mapM step) (others.mapM step) := by
  induction stand generalizing others with
  | nil =>
    cases otherStand
    exact .refl _
  | cons first _ inductionHypothesis =>
    cases otherStand with
    | cons otherFirst otherRest =>
      rw [List.mapM_cons, List.mapM_cons]
      exact (each first otherFirst).bind fun _ =>
        (inductionHypothesis otherRest).bind fun _ => .refl _

end Alike

end FormEngine.Result

namespace FormEngine

/-- A place in a list is its start or a place in the rest. -/
theorem exists_split_cons_iff {α : Type} {item : α} {rest : List α} {holds : List α → α → Prop} :
    (∃ before other after, item :: rest = before ++ other :: after ∧ holds before other) ↔
      holds [] item ∨
        ∃ before other after, rest = before ++ other :: after ∧ holds (item :: before) other := by
  constructor
  · rintro ⟨before, other, after, split, holdsThere⟩
    cases before with
    | nil =>
      cases split
      exact .inl holdsThere
    | cons first before =>
      cases split
      exact .inr ⟨before, other, after, rfl, holdsThere⟩
  · rintro (holdsHere | ⟨before, other, after, rfl, holdsThere⟩)
    · exact ⟨[], item, rest, rfl, holdsHere⟩
    · exact ⟨item :: before, other, after, rfl, holdsThere⟩

/-- Going through a list for as long as items pass comes to one at which it ends. -/
def ComesTo {α : Type} (passes ends : α → Prop) (items : List α) : Prop :=
  ∃ before item after, items = before ++ item :: after ∧
    (∀ earlier ∈ before, passes earlier) ∧ ends item

section ComesTo

variable {α : Type} {passes ends : α → Prop}

@[simp] theorem not_comesTo_nil : ¬ComesTo passes ends [] := by
  rintro ⟨before, item, after, same, -⟩
  simp at same

/-- It ends at the first item, or that passes and it ends later. -/
@[simp] theorem comesTo_cons {item : α} {rest : List α} :
    ComesTo passes ends (item :: rest) ↔ ends item ∨ passes item ∧ ComesTo passes ends rest := by
  refine exists_split_cons_iff.trans (or_congr (by simp) ?_)
  constructor
  · rintro ⟨before, last, after, same, pass, endsLast⟩
    obtain ⟨passesHere, passLater⟩ := List.forall_mem_cons.mp pass
    exact ⟨passesHere, before, last, after, same, passLater, endsLast⟩
  · rintro ⟨passesHere, before, last, after, same, pass, endsLast⟩
    exact ⟨before, last, after, same, List.forall_mem_cons.mpr ⟨passesHere, pass⟩, endsLast⟩

/-- A condition on no item may stand before the search. -/
theorem comesTo_and_iff {condition : Prop} {items : List α} :
    ComesTo passes (fun item => ends item ∧ condition) items ↔
      condition ∧ ComesTo passes ends items := by
  constructor
  · rintro ⟨before, item, after, same, pass, endsThere, holds⟩
    exact ⟨holds, before, item, after, same, pass, endsThere⟩
  · rintro ⟨holds, before, item, after, same, pass, endsThere⟩
    exact ⟨before, item, after, same, pass, endsThere, holds⟩

end ComesTo

/-- A failure that is not reported as one of documents. -/
abbrev Escapes {α : Type} (result : Except Fault α) : Prop :=
  Result.FailsAs (·.category ≠ .schemaImport) result

end FormEngine
