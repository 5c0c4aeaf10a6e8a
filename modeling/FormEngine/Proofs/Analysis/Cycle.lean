import FormEngine.Analysis.Dependency
import Mathlib.Data.List.Chain
import Mathlib.Data.List.Nodup

/-!
# Cycles of dependencies

The search for a cycle is right both ways: what it finds is a cycle, and where it finds none there
is none. The second half rests on what is known of the ids that it has done with. No edge leads out
of them, none of them is on the path, and so none of them can lie on a cycle.
-/

namespace FormEngine

/-- A way along edges back to where it began that meets no id twice, written with its first id at
both ends. -/
structure IsCycle (edge : String → String → Prop) (ids : List String) : Prop where
  long : 2 ≤ ids.length
  closed : ids.head? = ids.getLast?
  distinct : ids.dropLast.Nodup
  linked : ids.IsChain edge

/-- Without edges from an id to itself, a cycle has at least two ids. -/
theorem IsCycle.three_le_length {edge : String → String → Prop} {ids : List String}
    (cycle : IsCycle edge ids) (irreflexive : ∀ id, ¬edge id id) : 3 ≤ ids.length := by
  obtain ⟨long, closed, -, linked⟩ := cycle
  match ids with
  | [] => cases long
  | [_] => simp at long
  | [first, last] =>
    obtain rfl : first = last := by simpa using closed
    exact absurd (List.isChain_pair.mp linked) (irreflexive first)
  | _ :: _ :: _ :: rest => simp

/-- An id on a cycle can be reached from itself. -/
theorem IsCycle.exists_transGen {edge : String → String → Prop} {ids : List String}
    (cycle : IsCycle edge ids) : ∃ id, Relation.TransGen edge id id := by
  obtain ⟨long, closed, -, linked⟩ := cycle
  match ids with
  | [] => cases long
  | [_] => simp at long
  | first :: second :: rest =>
    have steps := List.relationReflTransGen_of_exists_isChain_cons rest linked.tail rfl
    have back : (second :: rest).getLast (by simp) = first := by
      simpa [List.getLast?_eq_getLast_of_ne_nil] using closed.symm
    rw [back] at steps
    exact ⟨first, .head' (List.rel_of_isChain_cons_cons linked) steps⟩

namespace Dependencies

/-- The successors of an id are those of its entry. -/
@[simp] theorem successors_cons (other : String) (targets : List String)
    (rest : List (String × List String)) (id : String) :
    successors ⟨(other, targets) :: rest⟩ id =
      if other = id then targets else successors ⟨rest⟩ id := by
  by_cases same : other = id <;> simp [successors, same]

/-- An edge that is added leads from its source only, behind the edges that are there. -/
theorem successors_insert (graph : Dependencies) (source target id : String) :
    (graph.insert source target).successors id =
      if source = id then graph.successors source ++ [target] else graph.successors id := by
  obtain ⟨edges⟩ := graph
  unfold insert
  induction edges with
  | nil => by_cases same : source = id <;> simp [insertEdge, successors, same]
  | cons entry rest inductionHypothesis =>
    obtain ⟨other, targets⟩ := entry
    unfold insertEdge
    split
    case isTrue here =>
      subst here
      by_cases same : other = id <;> simp [same]
    case isFalse elsewhere =>
      simp only [successors_cons, inductionHypothesis, elsewhere, if_false]
      by_cases same : source = id
      · simp [same, same ▸ elsewhere]
      · simp [same]

/-- An edge of a graph with one more edge is that edge or was there before. -/
theorem edge_insert_iff {graph : Dependencies} {source target start finish : String} :
    (graph.insert source target).Edge start finish ↔
      graph.Edge start finish ∨ (source = start ∧ finish = target) := by
  unfold Edge
  rw [successors_insert]
  split
  case isTrue same => simp [same]
  case isFalse other => simp [other]

/-- An edge that is added adds its ends to the ids of a graph. -/
theorem mem_ids_insert {graph : Dependencies} {source target id : String} :
    id ∈ (graph.insert source target).ids ↔ id = source ∨ id = target ∨ id ∈ graph.ids := by
  obtain ⟨edges⟩ := graph
  unfold insert ids
  induction edges with
  | nil => simp [insertEdge]
  | cons entry rest inductionHypothesis =>
    obtain ⟨other, targets⟩ := entry
    unfold insertEdge
    split
    case isTrue here =>
      subst here
      simp only [List.flatMap_cons, List.mem_append, List.mem_cons, List.not_mem_nil, or_false]
      tauto
    case isFalse elsewhere =>
      simp only [List.flatMap_cons, List.mem_append, inductionHypothesis]
      tauto

/-- What an edge leads away from is one of the triggers. -/
theorem Edge.mem_triggers {graph : Dependencies} {source target : String}
    (edge : graph.Edge source target) : source ∈ graph.triggers := by
  unfold Edge successors at edge
  cases found : graph.edges.find? (·.1 == source) with
  | none => simp [found] at edge
  | some entry =>
    have same : entry.1 = source := by simpa using List.find?_some found
    exact List.mem_map.mpr ⟨entry, List.mem_of_find?_eq_some found, same⟩

/-- What is known of the ids that the search has done with: none is on the path, no edge leads out
of them, and none can be reached from itself. -/
structure Settled (graph : Dependencies) (path done : List String) : Prop where
  apart : ∀ id ∈ done, id ∉ path
  closed : ∀ id ∈ done, ∀ next, graph.Edge id next → next ∈ done
  acyclic : ∀ id ∈ done, ¬Relation.TransGen graph.Edge id id

variable {graph : Dependencies} {path done pending : List String} {id : String}

/-- Whatever can be reached from a settled id is settled. -/
theorem Settled.mem_of_transGen (settled : Settled graph path done) (isDone : id ∈ done)
    {other : String} (reached : Relation.TransGen graph.Edge id other) : other ∈ done := by
  induction reached with
  | single edge => exact settled.closed id isDone _ edge
  | tail _ edge inductionHypothesis => exact settled.closed _ inductionHypothesis _ edge

/-- The last id of a path whose successors are all settled can be settled when the path goes back
behind it. -/
theorem Settled.pop (settled : Settled graph (path ++ [id]) done) (fresh : id ∉ path)
    (all : ∀ next, graph.Edge id next → next ∈ done) : Settled graph path (done ++ [id]) where
  apart := by
    intro other member onPath
    rcases List.mem_append.mp member with isDone | isLast
    · exact settled.apart other isDone (List.mem_append_left _ onPath)
    · rw [List.mem_singleton.mp isLast] at onPath
      exact fresh onPath
  closed := by
    intro other member next edge
    refine List.mem_append_left _ ?_
    rcases List.mem_append.mp member with isDone | isLast
    · exact settled.closed other isDone next edge
    · rw [List.mem_singleton.mp isLast] at edge
      exact all next edge
  acyclic := by
    intro other member returns
    rcases List.mem_append.mp member with isDone | isLast
    · exact settled.acyclic other isDone returns
    · rw [List.mem_singleton.mp isLast] at returns
      -- The way back leaves through a settled id and can not leave the settled ones again, but the
      -- last id of the path is not among them.
      have isDone : id ∈ done := by
        rcases Relation.TransGen.head'_iff.mp returns with ⟨next, edge, onward⟩
        rcases Relation.reflTransGen_iff_eq_or_transGen.mp onward with rfl | onward
        · exact all _ edge
        · exact settled.mem_of_transGen (all next edge) onward
      exact settled.apart id isDone (by simp)

/-- Settled ids stay settled where the path goes on to an id that is none of them. -/
theorem Settled.push (settled : Settled graph path done) (notDone : id ∉ done) :
    Settled graph (path ++ [id]) done where
  apart := by
    intro other isDone onPath
    rcases List.mem_append.mp onPath with before | isLast
    · exact settled.apart other isDone before
    · rw [List.mem_singleton.mp isLast] at isDone
      exact notDone isDone
  closed := settled.closed
  acyclic := settled.acyclic

/-- A path along edges, none of whose ids it meets twice. -/
structure IsPath (graph : Dependencies) (path : List String) : Prop where
  linked : path.IsChain graph.Edge
  distinct : path.Nodup

/-- A path goes on along an edge to an id that is not on it. -/
theorem IsPath.push (isPath : IsPath graph path) (fresh : id ∉ path)
    (edge : ∀ last ∈ path.getLast?, graph.Edge last id) : IsPath graph (path ++ [id]) where
  linked := isPath.linked.append (List.isChain_singleton id) (by simpa using edge)
  distinct := by
    rw [List.nodup_append]
    exact ⟨isPath.distinct, List.nodup_singleton id, fun other onPath last isLast same =>
      fresh (by simp_all)⟩

/-- From the first place of an item on, a list begins with that item. -/
theorem dropWhile_of_mem {items : List String} (member : id ∈ items) :
    ∃ rest, items.dropWhile (· != id) = id :: rest := by
  induction items with
  | nil => cases member
  | cons first rest inductionHypothesis =>
    by_cases same : first = id
    · exact ⟨rest, by simp [same]⟩
    · have later : id ∈ rest := by simpa [Ne.symm same] using member
      simpa [same] using inductionHypothesis later

/-- An edge from the end of a path back to one of its ids closes a cycle. -/
theorem IsPath.isCycle (isPath : IsPath graph path) (onPath : id ∈ path)
    (edge : ∀ last ∈ path.getLast?, graph.Edge last id) :
    IsCycle graph.Edge (path.dropWhile (· != id) ++ [id]) := by
  obtain ⟨rest, starts⟩ := dropWhile_of_mem onPath
  have suffix : id :: rest <:+ path := starts ▸ List.dropWhile_suffix _
  have last : path.getLast? = (id :: rest).getLast? := by
    obtain ⟨dropped, same⟩ := suffix
    rw [← same, List.getLast?_append, List.getLast?_cons]
    rfl
  rw [starts]
  refine ⟨by simp, by simp [List.getLast?_cons], ?_, ?_⟩
  · rw [List.dropLast_concat]
    exact isPath.distinct.sublist suffix.sublist
  · rw [last] at edge
    exact (isPath.linked.suffix suffix).append (List.isChain_singleton id) (by simpa using edge)

/-- What a search promises that goes on along a path through some pending ids: a cycle that it
finds is one, and if it finds none then the pending ids are settled with those before. -/
def Search.Keeps (graph : Dependencies) (path done pending : List String) : Search → Prop
  | .found cycle => IsCycle graph.Edge cycle
  | .clear after => done ⊆ after ∧ pending ⊆ after ∧ Settled graph path after

/-- A search behind an id that is settled by then keeps the promise for that id too. -/
theorem Search.Keeps.cons {search : Search} {earlier : List String}
    (keeps : search.Keeps graph path done pending) (grows : earlier ⊆ done) (isDone : id ∈ done) :
    search.Keeps graph path earlier (id :: pending) := by
  cases search with
  | found cycle => exact keeps
  | clear after =>
    obtain ⟨growsAfter, covers, settled⟩ := keeps
    exact ⟨List.Subset.trans grows growsAfter, List.cons_subset.mpr ⟨growsAfter isDone, covers⟩,
      settled⟩

/-- The search keeps its promise from every point of it. -/
theorem explore_keeps (isPath : IsPath graph path) (settled : Settled graph path done)
    (edges : ∀ last ∈ path.getLast?, ∀ id ∈ pending, graph.Edge last id) :
    (explore graph path done pending).Keeps graph path done pending := by
  fun_induction explore graph path done pending with
  | case1 path done => exact ⟨List.Subset.refl _, List.nil_subset _, settled⟩
  | case2 path done id rest onPath =>
    exact isPath.isCycle (by simpa using onPath) fun last isLast => edges last isLast id (.head _)
  | case3 path done id rest notOnPath isDone inductionHypothesis =>
    have later : ∀ last ∈ path.getLast?, ∀ other ∈ rest, graph.Edge last other :=
      fun last isLast other member => edges last isLast other (.tail _ member)
    exact (inductionHypothesis isPath settled later).cons (List.Subset.refl _) (by simpa using isDone)
  | case4 path done id rest notOnPath notDone cycle found inductionHypothesis =>
    have inner := inductionHypothesis
      (isPath.push (by simpa using notOnPath) fun last isLast => edges last isLast id (.head _))
      (settled.push (by simpa using notDone)) (by simp [Edge])
    rw [found] at inner
    exact inner
  | case5 path done id rest notOnPath notDone after clear innerHypothesis outerHypothesis =>
    have fresh : id ∉ path := by simpa using notOnPath
    have inner := innerHypothesis
      (isPath.push fresh fun last isLast => edges last isLast id (.head _))
      (settled.push (by simpa using notDone)) (by simp [Edge])
    rw [clear] at inner
    obtain ⟨grows, covers, settledAfter⟩ := inner
    have later : ∀ last ∈ path.getLast?, ∀ other ∈ rest, graph.Edge last other :=
      fun last isLast other member => edges last isLast other (.tail _ member)
    have outer := outerHypothesis isPath
      (settledAfter.pop fresh fun next edge => covers edge) later
    exact outer.cons (List.subset_append_of_subset_left _ grows) (by simp)

/-- The search finds a cycle exactly if there is one, and what it finds is a cycle. -/
theorem cycle?_spec (graph : Dependencies) :
    (∀ cycle, graph.cycle? = some cycle → IsCycle graph.Edge cycle) ∧
      (graph.cycle?.isSome = true ↔ ∃ id, Relation.TransGen graph.Edge id id) := by
  have keeps : (explore graph [] [] graph.triggers).Keeps graph [] [] graph.triggers :=
    explore_keeps ⟨.nil, .nil⟩ ⟨nofun, nofun, nofun⟩ nofun
  unfold cycle?
  cases search : graph.explore [] [] graph.triggers with
  | found cycle =>
    rw [search] at keeps
    have isCycle : IsCycle graph.Edge cycle := keeps
    simpa [isCycle] using isCycle.exists_transGen
  | clear after =>
    rw [search] at keeps
    obtain ⟨-, covers, settled⟩ := keeps
    simp only [reduceCtorEq, false_implies, implies_true, Option.isSome_none, Bool.false_eq_true,
      false_iff, true_and, not_exists]
    intro id returns
    obtain ⟨next, edge, -⟩ := Relation.TransGen.head'_iff.mp returns
    exact settled.acyclic id (covers edge.mem_triggers) returns

end Dependencies

end FormEngine
