import FormEngine.Proofs.Analysis.Cycle
import FormEngine.Proofs.Result
import Mathlib.Data.Finset.Card
import Mathlib.Data.Finset.Dedup

/-!
# The search for a cycle and its marks

The search can also be run on marks that it changes as it goes: it enters an id, follows the
successors one after the other, and leaves the id as done. Nothing but the marks is handed on from
call to call. A call from any point of such a run ends, with no more calls inside each other than
there are ids neither done nor on the path, and finds what the search along the path finds. Where it
finds no cycle, it leaves the path as it was, and of the ids that are done the same is known again.
-/

namespace FormEngine

/-- The marks of a search: the path that it is on, the ids on that, and those that it has done
with. -/
structure Trail where
  path : List String := []
  onPath : Finset String := ∅
  done : Finset String := ∅

namespace Trail

/-- The search goes on to an id. -/
def enter (id : String) (trail : Trail) : Trail :=
  { trail with path := trail.path ++ [id], onPath := insert id trail.onPath }

/-- The search has done with an id at the end of the path. -/
def leave (id : String) (trail : Trail) : Trail where
  path := trail.path.dropLast
  onPath := trail.onPath.erase id
  done := insert id trail.done

/-- The marks that agree with a path and with the ids that are done. -/
def along (path done : List String) : Trail :=
  ⟨path, path.toFinset, done.toFinset⟩

/-- The ids of the graph that are neither done nor on the path. -/
def ahead (graph : Dependencies) (trail : Trail) : Finset String :=
  graph.ids.toFinset \ (trail.onPath ∪ trail.done)

/-- What is known of the ids that are done: none is on the path, no edge leads out of them, and none
lies on a cycle. -/
structure IsSettled (graph : Dependencies) (trail : Trail) : Prop where
  apart : Disjoint trail.done trail.onPath
  closed : ∀ id ∈ trail.done, ∀ next, graph.Edge id next → next ∈ trail.done
  acyclic : ∀ id ∈ trail.done, ¬Relation.TransGen graph.Edge id id

/-- The marks at which a search may go on to an id: the path leads along edges to the id and meets
no id twice, the ids on it are marked, and the id is neither among them nor among those that are
done. -/
structure IsReady (graph : Dependencies) (trail : Trail) (id : String) : Prop where
  isPath : graph.IsPath trail.path
  leads : ∀ last ∈ trail.path.getLast?, graph.Edge last id
  marked : trail.onPath = trail.path.toFinset
  fresh : id ∉ trail.onPath
  notDone : id ∉ trail.done
  settled : trail.IsSettled graph

variable {graph : Dependencies} {path done : List String} {id : String}

@[simp] theorem path_along : (along path done).path = path := rfl

@[simp] theorem mem_onPath_along : id ∈ (along path done).onPath ↔ id ∈ path := List.mem_toFinset

@[simp] theorem mem_done_along : id ∈ (along path done).done ↔ id ∈ done := List.mem_toFinset

theorem toFinset_concat (ids : List String) (id : String) :
    (ids ++ [id]).toFinset = insert id ids.toFinset := by
  ext other
  simp

/-- The marks agree with the longer path when an id is entered. -/
theorem enter_along (id : String) (path done : List String) :
    (along path done).enter id = along (path ++ [id]) done := by
  simp only [enter, along, toFinset_concat]

/-- The marks agree with the shorter path when an id is left that was entered. -/
theorem leave_along (fresh : id ∉ path) (done : List String) :
    (along (path ++ [id]) done).leave id = along path (done ++ [id]) := by
  have erased : (insert id path.toFinset).erase id = path.toFinset :=
    Finset.erase_insert (by simpa using fresh)
  simp only [leave, along, toFinset_concat, erased, List.dropLast_concat]

theorem mem_ahead_along {other : String} :
    other ∈ (along path done).ahead graph ↔ other ∈ graph.ids ∧ other ∉ path ∧ other ∉ done := by
  simp [ahead]

/-- There are fewer ids ahead once one of them is entered. -/
theorem card_ahead_enter (known : id ∈ graph.ids) (notOnPath : id ∉ path) (notDone : id ∉ done) :
    ((along (path ++ [id]) done).ahead graph).card < ((along path done).ahead graph).card := by
  apply Finset.card_lt_card
  rw [Finset.ssubset_iff_of_subset]
  · exact ⟨id, mem_ahead_along.mpr ⟨known, notOnPath, notDone⟩, by simp [mem_ahead_along]⟩
  · intro other member
    rw [mem_ahead_along] at member ⊢
    simp_all

/-- There are no more ids ahead when more are done. -/
theorem card_ahead_le {after : List String} (grows : done ⊆ after) :
    ((along path after).ahead graph).card ≤ ((along path done).ahead graph).card := by
  apply Finset.card_le_card
  intro other member
  rw [mem_ahead_along] at member ⊢
  exact ⟨member.1, member.2.1, fun isDone => member.2.2 (grows isDone)⟩

theorem isSettled_along_iff :
    (along path done).IsSettled graph ↔ Dependencies.Settled graph path done := by
  constructor
  · rintro ⟨apart, closed, acyclic⟩
    simp only [mem_done_along] at closed acyclic
    refine ⟨fun id isDone onPath => ?_, closed, acyclic⟩
    exact Finset.disjoint_left.mp apart (mem_done_along.mpr isDone) (mem_onPath_along.mpr onPath)
  · rintro ⟨apart, closed, acyclic⟩
    refine ⟨Finset.disjoint_left.mpr fun id isDone onPath => ?_, ?_, ?_⟩
    · exact apart id (mem_done_along.mp isDone) (mem_onPath_along.mp onPath)
    · simpa only [mem_done_along] using closed
    · simpa only [mem_done_along] using acyclic

/-- The marks of a search that may go on agree with its path and with any list of what is done. -/
theorem IsReady.along_eq {trail : Trail} (ready : trail.IsReady graph id)
    (same : done.toFinset = trail.done) : along trail.path done = trail := by
  rw [along, same, ← ready.marked]

end Trail

namespace Dependencies

/-- Why a call gives no answer: it was allowed too few calls inside each other, or an id is marked
that is not on the path. -/
inductive Stuck where
  | tooDeep
  | notOnPath (id : String)

/-- A step of the search, with what it changes of the marks. -/
abbrev Walk := StateT Trail (Except Stuck)

/-- What a call comes to: a cycle or none, with the marks that are left. -/
abbrev Ending := Except Stuck (Option (List String) × Trail)

/-- The path from the first place of an id on, and back to the id. -/
def closeAt (id : String) : Walk (List String) := do
  let trail ← get
  if id ∈ trail.path then return trail.path.dropWhile (· != id) ++ [id]
  else throw (.notOnPath id)

/-- Follows ids one after the other with a search, up to the first that leads to a cycle. -/
def followEach (search : String → Walk (Option (List String))) :
    List String → Walk (Option (List String))
  | [] => return none
  | id :: rest => do
    let trail ← get
    if id ∈ trail.onPath then return some (← closeAt id)
    else if id ∈ trail.done then followEach search rest
    else
      match ← search id with
      | some cycle => return some cycle
      | none => followEach search rest

/-- Follows an id, with at most so many calls inside each other. -/
def follow (graph : Dependencies) : Nat → String → Walk (Option (List String))
  | 0, _ => throw .tooDeep
  | depth + 1, id => do
    modify (Trail.enter id)
    match ← followEach (graph.follow depth) (graph.successors id) with
    | some cycle => return some cycle
    | none =>
      modify (Trail.leave id)
      return none

section Step

variable {graph : Dependencies} {search : String → Walk (Option (List String))}
  {trail after : Trail} {id : String} {rest cycle : List String}

theorem run_followEach_onPath (marked : id ∈ trail.onPath) (onPath : id ∈ trail.path) :
    (followEach search (id :: rest)).run trail =
      .ok (some (trail.path.dropWhile (· != id) ++ [id]), trail) := by
  simp [followEach, closeAt, marked, onPath]

theorem run_followEach_done (notOnPath : id ∉ trail.onPath) (isDone : id ∈ trail.done) :
    (followEach search (id :: rest)).run trail = (followEach search rest).run trail := by
  simp [followEach, notOnPath, isDone]

theorem run_followEach_found (notOnPath : id ∉ trail.onPath) (notDone : id ∉ trail.done)
    (found : (search id).run trail = .ok (some cycle, after)) :
    (followEach search (id :: rest)).run trail = .ok (some cycle, after) := by
  simp [followEach, notOnPath, notDone, found]

theorem run_followEach_clear (notOnPath : id ∉ trail.onPath) (notDone : id ∉ trail.done)
    (clear : (search id).run trail = .ok (none, after)) :
    (followEach search (id :: rest)).run trail = (followEach search rest).run after := by
  simp [followEach, notOnPath, notDone, clear]

/-- One id that is neither on the path nor done is followed by one call. -/
theorem run_followEach_singleton (notOnPath : id ∉ trail.onPath) (notDone : id ∉ trail.done) :
    (followEach search [id]).run trail = (search id).run trail := by
  match called : (search id).run trail with
  | .error stuck => simp [followEach, notOnPath, notDone, called]
  | .ok (some cycle, after) => exact run_followEach_found notOnPath notDone called
  | .ok (none, after) => exact run_followEach_clear notOnPath notDone called

theorem run_follow_found {depth : Nat}
    (found : (followEach (graph.follow depth) (graph.successors id)).run (trail.enter id) =
      .ok (some cycle, after)) :
    (graph.follow (depth + 1) id).run trail = .ok (some cycle, after) := by
  simp [follow, found]

theorem run_follow_clear {depth : Nat}
    (clear : (followEach (graph.follow depth) (graph.successors id)).run (trail.enter id) =
      .ok (none, after)) :
    (graph.follow (depth + 1) id).run trail = .ok (none, after.leave id) := by
  simp [follow, clear]

end Step

variable {graph : Dependencies}

/-- The cycle that a search has found. -/
def Search.cycle? : Search → Option (List String)
  | .found cycle => some cycle
  | .clear _ => none

/-- What a run gives that goes as a search along a path does: its cycle, or the marks of the same
path with the ids that the search has done with. -/
def Search.IsRunOf (path done : List String) (ending : Ending) : Search → Prop
  | .found cycle => ∃ after, ending = .ok (some cycle, after)
  | .clear after => done ⊆ after ∧ ending = .ok (none, .along path after)

/-- What a run finds is what the search finds. -/
theorem Search.IsRunOf.cycle?_eq {search : Search} {path done : List String}
    {outcome : Option (List String)} {after : Trail}
    (isRun : search.IsRunOf path done (.ok (outcome, after))) : search.cycle? = outcome := by
  cases search with
  | found cycle =>
    obtain ⟨_, same⟩ := isRun
    cases same
    rfl
  | clear done =>
    obtain ⟨-, same⟩ := isRun
    cases same
    rfl

/-- A run that goes on with more ids done has gone on from fewer. -/
theorem Search.IsRunOf.of_subset {search : Search} {path done earlier : List String}
    {ending : Ending} (isRun : search.IsRunOf path done ending) (grows : earlier ⊆ done) :
    search.IsRunOf path earlier ending := by
  cases search with
  | found cycle => exact isRun
  | clear after => exact ⟨List.Subset.trans grows isRun.1, isRun.2⟩

/-- A call for an id ahead leaves enough calls for its successors. -/
theorem exists_depth {path done : List String} {id : String} {depth : Nat} (fresh : id ∉ path)
    (notDone : id ∉ done) (deep : ((Trail.along path done).ahead graph).card < depth) :
    ∃ inside, depth = inside + 1 ∧ (graph.successors id ≠ [] →
      ((Trail.along (path ++ [id]) done).ahead graph).card < inside) := by
  obtain ⟨inside, rfl⟩ := Nat.exists_eq_succ_of_ne_zero (Nat.ne_zero_of_lt deep)
  refine ⟨inside, rfl, fun leadsOn => ?_⟩
  -- An id that the graph does not know is not counted as ahead, but it has no successors.
  have known : id ∈ graph.ids := by
    by_contra unknown
    exact leadsOn (successors_of_not_mem unknown)
  have fewer := Trail.card_ahead_enter known fresh notDone
  omega

/-- From marks that agree with a path, following ids goes as the search along the path does, if it
is allowed more calls inside each other than there are ids ahead. -/
theorem run_followEach {path done pending : List String} {depth : Nat}
    (deep : pending ≠ [] → ((Trail.along path done).ahead graph).card < depth) :
    (explore graph path done pending).IsRunOf path done
      ((followEach (graph.follow depth) pending).run (.along path done)) := by
  fun_induction explore graph path done pending generalizing depth with
  | case1 path done => exact ⟨List.Subset.refl _, rfl⟩
  | case2 path done id rest onPath =>
    have onPath : id ∈ path := by simpa using onPath
    exact ⟨_, run_followEach_onPath (by simpa using onPath) onPath⟩
  | case3 path done id rest notOnPath isDone inductionHypothesis =>
    rw [run_followEach_done (by simpa using notOnPath) (by simpa using isDone)]
    exact inductionHypothesis fun _ => deep (List.cons_ne_nil _ _)
  | case4 path done id rest notOnPath notDone cycle found inductionHypothesis =>
    obtain ⟨depth, rfl, deepInside⟩ := exists_depth (by simpa using notOnPath)
      (by simpa using notDone) (deep (List.cons_ne_nil _ _))
    have inner := inductionHypothesis deepInside
    rw [found] at inner
    obtain ⟨after, inside⟩ := inner
    refine ⟨after, run_followEach_found (by simpa using notOnPath) (by simpa using notDone) ?_⟩
    exact run_follow_found (by rwa [Trail.enter_along])
  | case5 path done id rest notOnPath notDone after clear innerHypothesis outerHypothesis =>
    have fresh : id ∉ path := by simpa using notOnPath
    obtain ⟨depth, rfl, deepInside⟩ := exists_depth fresh (by simpa using notDone)
      (deep (List.cons_ne_nil _ _))
    have inner := innerHypothesis deepInside
    rw [clear] at inner
    obtain ⟨grows, inside⟩ := inner
    -- The call has entered the id and leaves it, so the path is as it was and the id is done.
    have called : (graph.follow (depth + 1) id).run (.along path done) =
        .ok (none, .along path (after ++ [id])) := by
      rw [← Trail.leave_along fresh]
      exact run_follow_clear (by rwa [Trail.enter_along])
    rw [run_followEach_clear (by simpa using notOnPath) (by simpa using notDone) called]
    have growsFurther : done ⊆ after ++ [id] := List.subset_append_of_subset_left _ grows
    have deepBehind : ((Trail.along path (after ++ [id])).ahead graph).card < depth + 1 :=
      Nat.lt_of_le_of_lt (Trail.card_ahead_le growsFurther) (deep (List.cons_ne_nil _ _))
    exact (outerHypothesis fun _ => deepBehind).of_subset growsFurther

/-- The report looks for a cycle by following all triggers from empty marks. -/
theorem run_followEach_triggers (graph : Dependencies) {depth : Nat}
    (deep : graph.ids.toFinset.card < depth) :
    ∃ after, (followEach (graph.follow depth) graph.triggers).run {} =
      .ok (graph.cycle?, after) := by
  have fewAhead : ((Trail.along [] []).ahead graph).card < depth :=
    Nat.lt_of_le_of_lt (Finset.card_le_card Finset.sdiff_subset) deep
  have run : (explore graph [] [] graph.triggers).IsRunOf [] []
      ((followEach (graph.follow depth) graph.triggers).run {}) :=
    run_followEach fun _ => fewAhead
  unfold cycle?
  cases search : explore graph [] [] graph.triggers with
  | found cycle =>
    rw [search] at run
    exact run
  | clear after =>
    rw [search] at run
    exact ⟨_, run.2⟩

/-- What a call for an id leaves of the marks when it finds no cycle: the path and the ids on it are
as they were, and the id is among those that are done, of which the same is known as before. -/
structure Restores (graph : Dependencies) (trail : Trail) (id : String) (after : Trail) : Prop where
  path : after.path = trail.path
  onPath : after.onPath = trail.onPath
  grows : trail.done ⊆ after.done
  isDone : id ∈ after.done
  settled : after.IsSettled graph

/-- A call of the search keeps its invariant. From any marks at which a search may call itself for
an id, the call ends, if it is allowed more calls inside each other than there are ids ahead. It
finds what the search along the path finds. If that is a cycle, it is one of the graph. If it is
none, then path and marked ids are as they were, and those that are done have grown to hold the id,
with no edge out of them and none of them on the path or on a cycle. -/
theorem follow_restores {trail : Trail} {id : String} (ready : trail.IsReady graph id) {depth : Nat}
    (deep : (trail.ahead graph).card < depth) :
    ∃ outcome after, (graph.follow depth id).run trail = .ok (outcome, after) ∧
      (∀ done : List String, done.toFinset = trail.done →
        (explore graph trail.path done [id]).cycle? = outcome) ∧
      (∀ cycle, outcome = some cycle → IsCycle graph.Edge cycle) ∧
      (outcome = none → Restores graph trail id after) := by
  -- The ids that are done agree with the marks in whatever order they are listed.
  have agree {done : List String} (same : done.toFinset = trail.done) :
      Trail.along trail.path done = trail := ready.along_eq same
  have ran {done : List String} (same : done.toFinset = trail.done) :
      (explore graph trail.path done [id]).IsRunOf trail.path done
        ((graph.follow depth id).run trail) := by
    have run : (explore graph trail.path done [id]).IsRunOf trail.path done
        ((followEach (graph.follow depth) [id]).run (.along trail.path done)) :=
      run_followEach fun _ => by rwa [agree same]
    rwa [agree same, run_followEach_singleton ready.fresh ready.notDone] at run
  have listed : trail.done.toList.toFinset = trail.done := Finset.toList_toFinset _
  have keeps : (explore graph trail.path trail.done.toList [id]).Keeps graph trail.path
      trail.done.toList [id] := by
    refine explore_keeps ready.isPath ?_ ?_
    · rw [← Trail.isSettled_along_iff, agree listed]
      exact ready.settled
    · intro last isLast other isId
      rw [List.mem_singleton.mp isId]
      exact ready.leads last isLast
  cases search : explore graph trail.path trail.done.toList [id] with
  | found cycle =>
    rw [search] at keeps
    obtain ⟨after, run⟩ := search ▸ ran listed
    refine ⟨some cycle, after, run, fun done same => (run ▸ ran same).cycle?_eq, ?_, nofun⟩
    rintro other ⟨⟩
    exact keeps
  | clear done =>
    rw [search] at keeps
    obtain ⟨grows, covers, settled⟩ := keeps
    obtain ⟨-, run⟩ := search ▸ ran listed
    refine ⟨none, _, run, fun done same => (run ▸ ran same).cycle?_eq, nofun, fun _ => ?_⟩
    exact {
      path := rfl
      onPath := ready.marked.symm
      grows := fun other isDone => by
        simpa using grows (Finset.mem_toList.mpr isDone)
      isDone := by simpa using covers
      settled := Trail.isSettled_along_iff.mpr settled }

/-- A graph in which two ways lead from a to d, and from the second back to some ids. -/
def crossing (back : List String) : Dependencies :=
  ⟨[("a", ["b", "c"]), ("b", ["d"]), ("c", ["b", "d"] ++ back)]⟩

/-- The search has done with the first way from a. -/
def midway : Trail :=
  .along ["a"] ["d", "b"]

theorem isReady_midway (back : List String) : midway.IsReady (crossing back) "c" := by
  have ofA : (crossing back).successors "a" = ["b", "c"] := rfl
  have ofB : (crossing back).successors "b" = ["d"] := rfl
  have ofD : (crossing back).successors "d" = [] := rfl
  have nothing : Settled (crossing back) (["a", "b"] ++ ["d"]) [] := ⟨nofun, nofun, nofun⟩
  have first : Settled (crossing back) (["a"] ++ ["b"]) ["d"] :=
    nothing.pop (by decide) (by simp [Edge, ofD])
  have both : Settled (crossing back) ["a"] ["d", "b"] :=
    first.pop (by decide) (by simp [Edge, ofB])
  exact {
    isPath := ⟨.singleton "a", List.nodup_singleton "a"⟩
    leads := by simp [midway, Edge, ofA]
    marked := rfl
    fresh := by simp [midway]
    notDone := by simp [midway]
    settled := Trail.isSettled_along_iff.mpr both }

/-- Midway the call for the second way ends with the path as it was and the second way done, and it
finds the cycle if the second way leads back to where the path began. -/
theorem follow_restores_midway :
    midway.IsReady (crossing []) "c" ∧ (midway.ahead (crossing [])).card < 2 ∧
      (∃ after, ((crossing []).follow 2 "c").run midway = .ok (none, after) ∧
        Restores (crossing []) midway "c" after) ∧
      midway.IsReady (crossing ["a"]) "c" ∧ (midway.ahead (crossing ["a"])).card < 2 ∧
      ∃ after, ((crossing ["a"]).follow 2 "c").run midway = .ok (some ["a", "c", "a"], after) ∧
        IsCycle (crossing ["a"]).Edge ["a", "c", "a"] := by
  have deep : (midway.ahead (crossing [])).card < 2 := by decide +kernel
  have deepBack : (midway.ahead (crossing ["a"])).card < 2 := by decide +kernel
  have finds : (((crossing []).follow 2 "c").run midway).toOption.map (·.1) = some none := by
    decide +kernel
  have findsBack : (((crossing ["a"]).follow 2 "c").run midway).toOption.map (·.1) =
      some (some ["a", "c", "a"]) := by decide +kernel
  obtain ⟨outcome, after, run, -, -, restores⟩ := follow_restores (isReady_midway []) deep
  obtain ⟨outcomeBack, afterBack, runBack, -, isCycle, -⟩ :=
    follow_restores (isReady_midway ["a"]) deepBack
  rw [run] at finds
  rw [runBack] at findsBack
  obtain rfl : outcome = none := Option.some.inj finds
  obtain rfl : outcomeBack = some ["a", "c", "a"] := Option.some.inj findsBack
  exact ⟨isReady_midway [], deep, ⟨after, run, restores rfl⟩, isReady_midway ["a"], deepBack,
    afterBack, runBack, isCycle _ rfl⟩

end Dependencies

end FormEngine
