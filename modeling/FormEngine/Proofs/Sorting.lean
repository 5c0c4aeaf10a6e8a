import FormEngine.Proofs.Result
import FormEngine.Sorting
import Mathlib.Data.List.Nodup
import Mathlib.Data.Prod.Lex

/-!
# Sorting items

Sorting gives the items in another order, if it succeeds, and it succeeds where every two of the
items can be compared. Nothing is asked of the order for that. Where it is the order of keys, the
sorted items have ascending keys, and distinct items with one key keep their order.
-/

namespace FormEngine.Sorting

variable {α ε : Type} {before : α → α → Except ε Bool} {items : List α}

/-- A descending run that ends loses no item. -/
theorem perm_of_extendDescending {last : α} {run ascending behind : List α}
    (extended : extendDescending before last run items = .ok (ascending, behind)) :
    (ascending ++ behind).Perm (last :: run ++ items) := by
  induction items generalizing last run with
  | nil =>
    obtain ⟨rfl, rfl⟩ := Prod.mk.inj (Except.ok.inj extended)
    exact .rfl
  | cons item rest inductionHypothesis =>
    obtain ⟨answer, -, continued⟩ := Result.bind_eq_ok_iff.mp extended
    cases answer with
    | true => exact (inductionHypothesis continued).trans List.perm_middle.symm
    | false =>
      obtain ⟨rfl, rfl⟩ := Prod.mk.inj (Except.ok.inj continued)
      exact .rfl

/-- Neither does an ascending run. -/
theorem perm_of_extendAscending {last : α} {run ascending behind : List α}
    (extended : extendAscending before last run items = .ok (ascending, behind)) :
    (ascending ++ behind).Perm (last :: run ++ items) := by
  induction items generalizing last run with
  | nil =>
    obtain ⟨rfl, rfl⟩ := Prod.mk.inj (Except.ok.inj extended)
    exact (List.reverse_perm _).append_right _
  | cons item rest inductionHypothesis =>
    obtain ⟨answer, -, continued⟩ := Result.bind_eq_ok_iff.mp extended
    cases answer with
    | true =>
      obtain ⟨rfl, rfl⟩ := Prod.mk.inj (Except.ok.inj continued)
      exact (List.reverse_perm _).append_right _
    | false => exact (inductionHypothesis continued).trans List.perm_middle.symm

/-- The run that items begin with and the items behind it are the items. -/
theorem perm_of_leadingRun {ascending behind : List α}
    (found : leadingRun before items = .ok (ascending, behind)) :
    (ascending ++ behind).Perm items := by
  match items with
  | [] | [item] =>
    obtain ⟨rfl, rfl⟩ := Prod.mk.inj (Except.ok.inj found)
    exact .rfl
  | first :: second :: rest =>
    obtain ⟨answer, -, continued⟩ := Result.bind_eq_ok_iff.mp found
    have swapped : (second :: [first] ++ rest).Perm (first :: second :: rest) := .swap ..
    cases answer with
    | true => exact (perm_of_extendDescending continued).trans swapped
    | false => exact (perm_of_extendAscending continued).trans swapped

/-- An item that is put between others joins them. -/
theorem perm_splice (sorted : List α) (place : Nat) (item : α) (rest : List α) :
    (sorted.take place ++ item :: sorted.drop place ++ rest).Perm (sorted ++ item :: rest) := by
  have moved : (sorted.take place ++ item :: sorted.drop place).Perm
      (item :: (sorted.take place ++ sorted.drop place)) := List.perm_middle
  rw [List.take_append_drop] at moved
  exact (moved.append_right rest).trans List.perm_middle.symm

/-- Inserting further items loses none. -/
theorem perm_of_insertAll {sorted all : List α}
    (inserted : insertAll before sorted items = .ok all) : all.Perm (sorted ++ items) := by
  induction items generalizing sorted with
  | nil =>
    obtain rfl := Except.ok.inj inserted
    simp
  | cons item rest inductionHypothesis =>
    obtain ⟨place, -, continued⟩ := Result.bind_eq_ok_iff.mp inserted
    exact (inductionHypothesis continued).trans (perm_splice sorted place item rest)

/-- Sorted items are the items in another order. -/
theorem perm_of_sort {sorted : List α} (done : sort before items = .ok sorted) :
    sorted.Perm items := by
  obtain ⟨⟨run, rest⟩, found, inserted⟩ := Result.bind_eq_ok_iff.mp done
  exact (perm_of_insertAll inserted).trans (perm_of_leadingRun found)

/-- Every two of the items can be compared. -/
def Compares (before : α → α → Except ε Bool) (items : List α) : Prop :=
  ∀ left ∈ items, ∀ right ∈ items, ∃ answer, before left right = .ok answer

/-- What can be compared can be compared among fewer items. -/
theorem Compares.subset {others : List α} (compares : Compares before items)
    (subset : others ⊆ items) : Compares before others :=
  fun left leftIn right rightIn => compares left (subset leftIn) right (subset rightIn)

/-- A descending run ends somewhere. -/
theorem exists_extendDescending {last : α} {run : List α}
    (compares : Compares before (last :: run ++ items)) :
    ∃ split, extendDescending before last run items = .ok split := by
  induction items generalizing last run with
  | nil => exact ⟨_, rfl⟩
  | cons item rest inductionHypothesis =>
    obtain ⟨answer, compared⟩ := compares item (by simp) last (by simp)
    have moved : (item :: last :: run ++ rest).Perm (last :: run ++ item :: rest) :=
      List.perm_middle.symm
    simp only [extendDescending, compared, Result.ok_bind]
    cases answer with
    | true => exact inductionHypothesis (compares.subset moved.subset)
    | false => exact ⟨_, rfl⟩

/-- So does an ascending run. -/
theorem exists_extendAscending {last : α} {run : List α}
    (compares : Compares before (last :: run ++ items)) :
    ∃ split, extendAscending before last run items = .ok split := by
  induction items generalizing last run with
  | nil => exact ⟨_, rfl⟩
  | cons item rest inductionHypothesis =>
    obtain ⟨answer, compared⟩ := compares item (by simp) last (by simp)
    have moved : (item :: last :: run ++ rest).Perm (last :: run ++ item :: rest) :=
      List.perm_middle.symm
    simp only [extendAscending, compared, Result.ok_bind]
    cases answer with
    | true => exact ⟨_, rfl⟩
    | false => exact inductionHypothesis (compares.subset moved.subset)

/-- The run that items begin with is found. -/
theorem exists_leadingRun (compares : Compares before items) :
    ∃ split, leadingRun before items = .ok split := by
  match items with
  | [] | [item] => exact ⟨_, rfl⟩
  | first :: second :: rest =>
    obtain ⟨answer, compared⟩ := compares second (by simp) first (by simp)
    have swapped : (second :: [first] ++ rest).Perm (first :: second :: rest) := .swap ..
    have still := compares.subset swapped.subset
    simp only [leadingRun, compared, Result.ok_bind]
    cases answer with
    | true => exact exists_extendDescending still
    | false => exact exists_extendAscending still

/-- A place is found for an item that can be compared with the others. -/
theorem exists_bisect {item : α} {sorted : Array α} {low high : Nat}
    (compares : ∀ other ∈ sorted, ∃ answer, before item other = .ok answer) :
    ∃ place, bisect before item sorted low high = .ok place := by
  fun_induction bisect before item sorted low high with
  | case1 low high below middle missing => exact ⟨low, rfl⟩
  | case2 low high below middle other found earlier later =>
    obtain ⟨answer, compared⟩ := compares other (Array.mem_of_getElem? found)
    rw [compared, Result.ok_bind]
    cases answer with
    | true => exact earlier
    | false => exact later
  | case3 low high notBelow => exact ⟨low, rfl⟩

/-- Further items are inserted. -/
theorem exists_insertAll {sorted : List α} (compares : Compares before (sorted ++ items)) :
    ∃ all, insertAll before sorted items = .ok all := by
  induction items generalizing sorted with
  | nil => exact ⟨sorted, rfl⟩
  | cons item rest inductionHypothesis =>
    obtain ⟨place, found⟩ : ∃ place,
        bisect before item sorted.toArray 0 sorted.length = .ok place := by
      apply exists_bisect
      intro other member
      exact compares item (by simp) other (by simp_all)
    simp only [insertAll, found, Result.ok_bind]
    exact inductionHypothesis (compares.subset (perm_splice sorted place item rest).subset)

/-- Items that can be compared are sorted: they are given in another order. -/
theorem sort_eq_ok (compares : Compares before items) :
    ∃ sorted, sort before items = .ok sorted ∧ sorted.Perm items := by
  obtain ⟨⟨run, rest⟩, found⟩ := exists_leadingRun compares
  have split := perm_of_leadingRun found
  obtain ⟨sorted, inserted⟩ := exists_insertAll (compares.subset split.subset)
  have done : sort before items = .ok sorted := by
    simp only [sort, found, Result.ok_bind]
    exact inserted
  exact ⟨sorted, done, perm_of_sort done⟩

/-- An ascending run takes in all items of which none comes before the one ahead of it. -/
theorem extendAscending_of_isChain {last : α} {run : List α}
    (ascending : List.IsChain (fun earlier later => before later earlier = .ok false)
      (last :: items)) :
    extendAscending before last run items = .ok (run.reverse ++ last :: items, []) := by
  induction items generalizing last run with
  | nil => simp [extendAscending]
  | cons item rest inductionHypothesis =>
    obtain ⟨follows, restAscending⟩ := List.isChain_cons_cons.mp ascending
    simp [extendAscending, follows, inductionHypothesis restAscending]

/-- Sorting leaves items in their order if none comes before the one ahead of it. -/
theorem sort_of_isChain
    (ascending : List.IsChain (fun earlier later => before later earlier = .ok false) items) :
    sort before items = .ok items := by
  have isRun : leadingRun before items = .ok (items, []) := by
    match items with
    | [] | [item] => rfl
    | first :: second :: rest =>
      obtain ⟨follows, restAscending⟩ := List.isChain_cons_cons.mp ascending
      simp [leadingRun, follows, extendAscending_of_isChain restAscending]
  simp [sort, isRun, insertAll]

section

variable {β : Type} [LinearOrder β] {key : α → β}

/-- Each of the items comes before another exactly if its key does. -/
def OrderedBy (before : α → α → Except ε Bool) (key : α → β) (items : List α) : Prop :=
  ∀ left ∈ items, ∀ right ∈ items, before left right = .ok (decide (key left < key right))

/-- Each of the items comes before one that is placed already, or that stands ahead of it, exactly
if its key does. Sorting makes no other comparisons. -/
structure OrdersBehind (before : α → α → Except ε Bool) (key : α → β) (placed items : List α) :
    Prop where
  across : ∀ item ∈ items, ∀ other ∈ placed,
    before item other = .ok (decide (key item < key other))
  within : items.Pairwise fun earlier later =>
    before later earlier = .ok (decide (key later < key earlier))

namespace OrdersBehind

variable {placed : List α} {item : α} {rest : List α}

/-- The first of the items is placed. -/
theorem tail (orders : OrdersBehind before key placed (item :: rest)) :
    OrdersBehind before key (item :: placed) rest := by
  obtain ⟨first, later⟩ := List.pairwise_cons.mp orders.within
  exact ⟨fun other member => List.forall_mem_cons.mpr
    ⟨first other member, orders.across other (.tail _ member)⟩, later⟩

/-- It does not count in which order items were placed. -/
theorem subset {others : List α} (orders : OrdersBehind before key placed items)
    (subset : others ⊆ placed) : OrdersBehind before key others items :=
  ⟨fun item member other isOther => orders.across item member other (subset isOther),
    orders.within⟩

end OrdersBehind

/-- The keys of the items ascend. -/
def Ascends (key : α → β) (items : List α) : Prop :=
  items.Pairwise fun earlier later => key earlier ≤ key later

/-- A descending run is given in ascending order, and the items behind it can follow. -/
theorem ascends_of_extendDescending {last : α} {run ascending behind : List α}
    (orders : OrdersBehind before key (last :: run) items) (ascends : Ascends key (last :: run))
    (extended : extendDescending before last run items = .ok (ascending, behind)) :
    Ascends key ascending ∧ OrdersBehind before key ascending behind := by
  induction items generalizing last run with
  | nil =>
    obtain ⟨rfl, rfl⟩ := Prod.mk.inj (Except.ok.inj extended)
    exact ⟨ascends, orders⟩
  | cons item rest inductionHypothesis =>
    obtain ⟨answer, compared, continued⟩ := Result.bind_eq_ok_iff.mp extended
    cases answer with
    | false =>
      obtain ⟨rfl, rfl⟩ := Prod.mk.inj (Except.ok.inj continued)
      exact ⟨ascends, orders⟩
    | true =>
      have descends : key item < key last := by
        simpa [orders.across item (by simp) last (by simp)] using compared
      refine inductionHypothesis orders.tail ?_ continued
      refine List.pairwise_cons.mpr ⟨fun other member => ?_, ascends⟩
      rcases List.mem_cons.mp member with rfl | earlier
      · exact descends.le
      · exact descends.le.trans (List.rel_of_pairwise_cons ascends earlier)

/-- So is an ascending run, which is collected last item first. -/
theorem ascends_of_extendAscending {last : α} {run ascending behind : List α}
    (orders : OrdersBehind before key (last :: run) items)
    (ascends : Ascends key (last :: run).reverse)
    (extended : extendAscending before last run items = .ok (ascending, behind)) :
    Ascends key ascending ∧ OrdersBehind before key ascending behind := by
  have collected : (last :: run).reverse ⊆ last :: run := (List.reverse_perm _).subset
  induction items generalizing last run with
  | nil =>
    obtain ⟨rfl, rfl⟩ := Prod.mk.inj (Except.ok.inj extended)
    exact ⟨ascends, orders.subset collected⟩
  | cons item rest inductionHypothesis =>
    obtain ⟨answer, compared, continued⟩ := Result.bind_eq_ok_iff.mp extended
    cases answer with
    | true =>
      obtain ⟨rfl, rfl⟩ := Prod.mk.inj (Except.ok.inj continued)
      exact ⟨ascends, orders.subset collected⟩
    | false =>
      have follows : key last ≤ key item := by
        simpa [orders.across item (by simp) last (by simp)] using compared
      refine inductionHypothesis orders.tail ?_ continued (List.reverse_perm _).subset
      have latest := List.pairwise_reverse.mp ascends
      refine List.pairwise_reverse.mpr (List.pairwise_cons.mpr ⟨fun other member => ?_, latest⟩)
      rcases List.mem_cons.mp member with rfl | earlier
      · exact follows
      · exact (List.rel_of_pairwise_cons latest earlier).trans follows

/-- The run that items begin with is given in ascending order, and the items behind it can
follow. -/
theorem ascends_of_leadingRun {ascending behind : List α}
    (orders : OrdersBehind before key [] items)
    (found : leadingRun before items = .ok (ascending, behind)) :
    Ascends key ascending ∧ OrdersBehind before key ascending behind := by
  match items with
  | [] =>
    obtain ⟨rfl, rfl⟩ := Prod.mk.inj (Except.ok.inj found)
    exact ⟨.nil, orders⟩
  | [item] =>
    obtain ⟨rfl, rfl⟩ := Prod.mk.inj (Except.ok.inj found)
    exact ⟨List.pairwise_singleton _ _, orders.tail⟩
  | first :: second :: rest =>
    obtain ⟨answer, compared, continued⟩ := Result.bind_eq_ok_iff.mp found
    have order := orders.tail.across second (by simp) first (by simp)
    cases answer with
    | true =>
      have descends : key second < key first := by simpa [order] using compared
      refine ascends_of_extendDescending orders.tail.tail ?_ continued
      simpa [Ascends] using descends.le
    | false =>
      have follows : key first ≤ key second := by simpa [order] using compared
      refine ascends_of_extendAscending orders.tail.tail ?_ continued
      simpa [Ascends] using follows

/-- The place that bisection finds in ascending items parts those with smaller keys from those with
larger ones, as the bounds do that it begins with. -/
theorem bisect_parts {item : α} {sorted : Array α} {low high place : Nat}
    (order : ∀ other ∈ sorted, before item other = .ok (decide (key item < key other)))
    (ascends : ∀ (earlier later : Nat) (first second : α), earlier ≤ later →
      sorted[earlier]? = some first → sorted[later]? = some second → key first ≤ key second)
    (inside : high ≤ sorted.size)
    (below : ∀ index < low, ∀ other, sorted[index]? = some other → key other ≤ key item)
    (above : ∀ index ≥ high, ∀ other, sorted[index]? = some other → key item ≤ key other)
    (found : bisect before item sorted low high = .ok place) :
    (∀ index < place, ∀ other, sorted[index]? = some other → key other ≤ key item) ∧
      ∀ index ≥ place, ∀ other, sorted[index]? = some other → key item ≤ key other := by
  fun_induction bisect before item sorted low high with
  | case1 low high isBelow middle missing =>
    have outside := Array.getElem?_eq_none_iff.mp missing
    omega
  | case2 low high isBelow middle other isThere earlier later =>
    rw [order other (Array.mem_of_getElem? isThere), Result.ok_bind] at found
    split at found
    case isTrue comesBefore =>
      refine earlier (by omega) below (fun index after later isLater => ?_) found
      exact (of_decide_eq_true comesBefore).le.trans (ascends _ _ _ _ after isThere isLater)
    case isFalse comesBehind =>
      refine later inside (fun index before earlier isEarlier => ?_) above found
      have behind : key other ≤ key item := by simpa using comesBehind
      exact (ascends _ _ _ _ (by omega) isEarlier isThere).trans behind
  | case3 low high notBelow =>
    obtain rfl := Except.ok.inj found
    exact ⟨below, fun index after => above index (by omega)⟩

/-- An item joins ascending items at its place. -/
theorem ascends_splice {item : α} {sorted : List α} {place : Nat}
    (order : ∀ other ∈ sorted, before item other = .ok (decide (key item < key other)))
    (ascends : Ascends key sorted)
    (found : bisect before item sorted.toArray 0 sorted.length = .ok place) :
    Ascends key (sorted.take place ++ item :: sorted.drop place) := by
  have atPlaces (earlier later : Nat) (first second : α) (inOrder : earlier ≤ later)
      (isFirst : sorted.toArray[earlier]? = some first)
      (isSecond : sorted.toArray[later]? = some second) : key first ≤ key second := by
    rw [List.getElem?_toArray] at isFirst isSecond
    obtain ⟨firstInside, rfl⟩ := List.getElem?_eq_some_iff.mp isFirst
    obtain ⟨secondInside, rfl⟩ := List.getElem?_eq_some_iff.mp isSecond
    rcases Nat.eq_or_lt_of_le inOrder with rfl | strictly
    · exact le_rfl
    · exact List.pairwise_iff_getElem.mp ascends _ _ _ _ strictly
  obtain ⟨below, above⟩ := bisect_parts (by simpa using order) atPlaces (by simp) (by simp)
    (fun index outside other isThere => by simp_all) found
  simp only [List.getElem?_toArray] at below above
  have taken : ∀ other ∈ sorted.take place, key other ≤ key item := by
    intro other member
    obtain ⟨index, isThere⟩ := List.mem_iff_getElem?.mp member
    rw [List.getElem?_take] at isThere
    split at isThere
    · next inside => exact below index inside other isThere
    · cases isThere
  have dropped : ∀ other ∈ sorted.drop place, key item ≤ key other := by
    intro other member
    obtain ⟨index, isThere⟩ := List.mem_iff_getElem?.mp member
    rw [List.getElem?_drop] at isThere
    exact above (place + index) (by omega) other isThere
  refine List.pairwise_append.mpr ⟨ascends.sublist (List.take_sublist _ _),
    List.pairwise_cons.mpr ⟨dropped, ascends.sublist (List.drop_sublist _ _)⟩, ?_⟩
  intro other isTaken later isLater
  rcases List.mem_cons.mp isLater with rfl | isDropped
  · exact taken other isTaken
  · exact (taken other isTaken).trans (dropped later isDropped)

/-- Ascending items stay so while further items are inserted. -/
theorem ascends_of_insertAll {sorted all : List α} (orders : OrdersBehind before key sorted items)
    (ascends : Ascends key sorted) (inserted : insertAll before sorted items = .ok all) :
    Ascends key all := by
  induction items generalizing sorted with
  | nil =>
    obtain rfl := Except.ok.inj inserted
    exact ascends
  | cons item rest inductionHypothesis =>
    obtain ⟨place, found, continued⟩ := Result.bind_eq_ok_iff.mp inserted
    have joined : (sorted.take place ++ item :: sorted.drop place).Perm (item :: sorted) := by
      simpa using (perm_splice sorted place item []).trans List.perm_append_comm
    exact inductionHypothesis (orders.tail.subset joined.subset)
      (ascends_splice (orders.across item (.head _)) ascends found) continued

/-- Sorted items are in the ascending order of keys that tell of any two of them whether the later
one comes before the one ahead of it. -/
theorem ascends_of_sort {sorted : List α}
    (orders : items.Pairwise fun earlier later =>
      before later earlier = .ok (decide (key later < key earlier)))
    (done : sort before items = .ok sorted) : Ascends key sorted := by
  obtain ⟨⟨run, rest⟩, found, inserted⟩ := Result.bind_eq_ok_iff.mp done
  obtain ⟨ascends, follow⟩ := ascends_of_leadingRun ⟨by simp, orders⟩ found
  exact ascends_of_insertAll follow ascends inserted

/-- Keys that order the items tell this of any two of them. -/
theorem OrderedBy.pairwise (ordered : OrderedBy before key items) :
    items.Pairwise fun earlier later =>
      before later earlier = .ok (decide (key later < key earlier)) :=
  List.pairwise_of_forall_mem_list fun earlier earlierIn later laterIn =>
    ordered later laterIn earlier earlierIn

/-- Sorting keeps distinct items with one key in the order that they had. -/
theorem ascends_idxOf_of_sort [DecidableEq α] {sorted : List α}
    (ordered : OrderedBy before key items) (distinct : items.Nodup)
    (done : sort before items = .ok sorted) :
    Ascends (fun item => toLex (key item, items.idxOf item)) sorted := by
  -- A later item has the larger place, so that places never put it ahead of an earlier one.
  refine ascends_of_sort ?_ done
  refine List.pairwise_iff_getElem.mpr fun earlier later earlierInside laterInside inOrder => ?_
  have placesFollow : ¬items.idxOf items[later] < items.idxOf items[earlier] := by
    rw [distinct.idxOf_getElem, distinct.idxOf_getElem]
    omega
  rw [ordered _ (List.getElem_mem laterInside) _ (List.getElem_mem earlierInside)]
  simp only [Prod.Lex.toLex_lt_toLex, placesFollow, and_false, or_false]

end

end FormEngine.Sorting
