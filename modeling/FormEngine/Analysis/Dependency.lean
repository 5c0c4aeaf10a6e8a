/-!
# Dependencies between fields

Conditional rules make fields depend on other fields. The dependencies form a graph whose edges
lead from a trigger to the fields that it shows. A depth first search looks for a cycle.
-/

namespace FormEngine

/-- A graph on ids: the successors of each id that has any, in the order of their entry. -/
structure Dependencies where
  edges : List (String × List String) := []
  deriving DecidableEq, Repr

namespace Dependencies

/-- Ids that have successors, in order of entry. -/
def triggers (graph : Dependencies) : List String :=
  graph.edges.map (·.1)

/-- The successors of an id. -/
def successors (graph : Dependencies) (id : String) : List String :=
  ((graph.edges.find? (·.1 == id)).map (·.2)).getD []

/-- All ids of the graph. -/
def ids (graph : Dependencies) : List String :=
  graph.edges.flatMap fun entry => entry.1 :: entry.2

/-- Adds an edge to a list of edges. -/
def insertEdge (source target : String) : List (String × List String) → List (String × List String)
  | [] => [(source, [target])]
  | (other, targets) :: rest =>
    if other = source then (other, targets ++ [target]) :: rest
    else (other, targets) :: insertEdge source target rest

/-- Adds an edge behind those that are there. -/
def insert (graph : Dependencies) (source target : String) : Dependencies :=
  ⟨insertEdge source target graph.edges⟩

/-- Whether an edge leads from one id to another. -/
def Edge (graph : Dependencies) (source target : String) : Prop :=
  target ∈ graph.successors source

/-- The outcome of a search: a cycle, or the ids that are known to lead to none. -/
inductive Search where
  | found (cycle : List String)
  | clear (done : List String)
  deriving DecidableEq, Repr

/-- Ids that are not on a path. -/
def unvisited (graph : Dependencies) (path : List String) : List String :=
  graph.ids.filter fun id => !path.contains id

theorem successors_of_not_mem {graph : Dependencies} {id : String} (absent : id ∉ graph.ids) :
    graph.successors id = [] := by
  unfold successors
  cases found : graph.edges.find? (·.1 == id) with
  | none => rfl
  | some entry =>
    have mem := List.mem_of_find?_eq_some found
    have same : entry.1 = id := by simpa using List.find?_some found
    exact absurd (List.mem_flatMap.mpr ⟨entry, mem, by simp [same]⟩) absent

theorem unvisited_append_lt {graph : Dependencies} {path : List String} {id : String}
    (known : id ∈ graph.ids) (fresh : id ∉ path) :
    (graph.unvisited (path ++ [id])).length < (graph.unvisited path).length := by
  have smaller : graph.unvisited (path ++ [id]) =
      (graph.unvisited path).filter (fun other => other ≠ id) := by
    unfold unvisited
    rw [List.filter_filter]
    congr 1
    funext other
    by_cases same : other = id <;> simp [same]
  rw [smaller]
  have present : id ∈ graph.unvisited path := by
    simp [unvisited, known, fresh]
  exact List.length_filter_lt_length_iff_exists.mpr ⟨id, present, by simp⟩

/-- Looks for a cycle through one of the pending ids, all of them successors of the last id of the
path. The ids in `done` are known to lead to no cycle. -/
def explore (graph : Dependencies) (path done : List String) : (pending : List String) → Search
  | [] => .clear done
  | id :: rest =>
    if path.contains id then .found (path.dropWhile (· != id) ++ [id])
    else if done.contains id then explore graph path done rest
    else
      match explore graph (path ++ [id]) done (graph.successors id) with
      | .found cycle => .found cycle
      | .clear done => explore graph path (done ++ [id]) rest
termination_by pending => ((graph.unvisited path).length, pending.length)
decreasing_by
  · exact Prod.Lex.right _ (by simp)
  · by_cases known : id ∈ graph.ids
    · exact Prod.Lex.left _ _ (unvisited_append_lt known (by simp_all))
    · rw [successors_of_not_mem known]
      have same : (graph.unvisited (path ++ [id])).length = (graph.unvisited path).length := by
        unfold unvisited
        congr 1
        apply List.filter_congr
        intro other member
        have different : other ≠ id := fun equal => known (equal ▸ member)
        simp [different]
      rw [same]
      exact Prod.Lex.right _ (by simp)
  · exact Prod.Lex.right _ (by simp)

/-- The first cycle that the search meets, written with its first id at both ends. -/
def cycle? (graph : Dependencies) : Option (List String) :=
  match explore graph [] [] graph.triggers with
  | .found cycle => some cycle
  | .clear _ => none

end Dependencies

end FormEngine
