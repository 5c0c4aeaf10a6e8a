import FormEngine.Proofs.Result
import FormEngine.Yaml.Node.Reading

/-!
# Faults of tokens that form no nodes

A reader of tokens rejects them, which is a single fault, or it comes to a fault at their end. It
does not change how they end, so reading on after a step is no different. For nodes this goes by
induction on the bound on nested steps.
-/

namespace FormEngine.Yaml.TokenReader

variable {α β : Type}

/-- A step that keeps how the tokens end. If it fails, it rejects them or comes to their end. -/
structure Follows (read : TokenReader α) : Prop where
  keeps : ∀ {state value after}, read.run state = .ok (value, after) →
    after.ending = state.ending
  fails : ∀ {state fault}, read.run state = .error fault →
    fault = .invalidYaml ∨ state.ending = some fault

/-- A step that changes nothing but what it is told to. -/
theorem follows_modify {change : TokenContext → TokenContext}
    (keeps : ∀ state, (change state).ending = state.ending) :
    Follows (modify change : TokenReader Unit) where
  keeps := by
    intro state value after given
    cases given
    exact keeps state
  fails := by
    intro state fault fails
    cases fails

namespace Follows

theorem pure (value : α) : Follows (pure value : TokenReader α) where
  keeps := by
    intro state _ after given
    cases given
    rfl
  fails := by
    intro state fault fails
    cases fails

theorem bind {first : TokenReader α} {rest : α → TokenReader β} (begins : Follows first)
    (goesOn : ∀ value, Follows (rest value)) : Follows (first >>= rest) where
  keeps := by
    intro state result after given
    rw [StateT.run_bind, Result.bind_eq_ok_iff] at given
    obtain ⟨⟨value, between⟩, firstGiven, restGiven⟩ := given
    exact ((goesOn value).keeps restGiven).trans (begins.keeps firstGiven)
  fails := by
    intro state fault fails
    rw [StateT.run_bind, Result.bind_eq_error_iff] at fails
    rcases fails with firstFails | ⟨⟨value, between⟩, firstGiven, restFails⟩
    · exact begins.fails firstFails
    · rw [← begins.keeps firstGiven]
      exact (goesOn value).fails restFails

theorem ite {condition : Prop} [Decidable condition] {first second : TokenReader α}
    (ifTrue : Follows first) (ifFalse : Follows second) :
    Follows (if condition then first else second) := by
  split <;> assumption

end Follows

theorem follows_reject : Follows (reject : TokenReader α) where
  keeps := by
    intro state value after given
    cases given
  fails := by
    intro state fault fails
    cases fails
    exact .inl rfl

theorem follows_get : Follows (get : TokenReader TokenContext) where
  keeps := by
    intro state value after given
    cases given
    rfl
  fails := by
    intro state fault fails
    cases fails

/-- To look at the next token is the only step that comes to the end. -/
theorem follows_peek : Follows peek where
  keeps := by
    intro state value after given
    simp only [peek, StateT.run_bind, StateT.run_get, Result.pure_eq_ok, Result.ok_bind] at given
    split at given <;> cases given
    rfl
  fails := by
    intro state fault fails
    simp only [peek, StateT.run_bind, StateT.run_get, Result.pure_eq_ok, Result.ok_bind] at fails
    split at fails
    next ending =>
      cases fails
      exact .inr ending
    next => cases fails

theorem follows_drop : Follows drop :=
  follows_modify fun _ => rfl

theorem follows_isNext (tokens : List Token) : Follows (isNext tokens) :=
  follows_peek.bind fun _ => .pure _

theorem follows_takeIf (token : Token) : Follows (takeIf token) := by
  refine (follows_isNext [token]).bind fun _ => .ite ?_ (.pure false)
  exact follows_drop.bind fun _ => .pure true

theorem follows_require (token : Token) : Follows (require token) :=
  (follows_takeIf token).bind fun _ => .ite (.pure ()) follows_reject

theorem follows_anchor? : Follows anchor? := by
  refine follows_peek.bind fun next => ?_
  split
  · exact follows_drop.bind fun _ => .pure _
  · exact .pure none

theorem follows_tag? : Follows tag? := by
  refine follows_peek.bind fun next => ?_
  split
  · exact follows_drop.bind fun _ => .pure _
  · exact .pure none

theorem follows_properties : Follows properties := by
  refine follows_anchor?.bind fun anchor => ?_
  split
  · exact follows_tag?.bind fun _ => .pure _
  · refine follows_tag?.bind fun tag => ?_
    split
    · exact follows_anchor?.bind fun _ => .pure _
    · exact .pure _

/-- A tag handle without a meaning is rejected. -/
theorem follows_tagName (written : WrittenTag) : Follows (tagName written) := by
  unfold tagName
  split
  · exact .pure _
  · refine follows_get.bind fun state => ?_
    split
    · exact .pure _
    · exact follows_reject

theorem follows_givenTag? (properties : Properties) : Follows (givenTag? properties) := by
  unfold givenTag?
  split
  · exact .pure none
  · exact (follows_tagName _).bind fun _ => .pure _

theorem follows_requireNewAnchor (properties : Properties) :
    Follows (requireNewAnchor properties) :=
  follows_get.bind fun _ => .ite follows_reject (.pure ())

theorem follows_mark (properties : Properties) (node : Node) : Follows (mark properties node) := by
  refine (follows_requireNewAnchor properties).bind fun _ => ?_
  split
  · exact .pure node
  · exact (follows_modify (by intro state; rfl)).bind fun _ => .pure node

/-- An alias of no anchor is rejected. -/
theorem follows_aliased (name : String) : Follows (aliased name) := by
  refine follows_get.bind fun state => ?_
  split
  · exact .pure _
  · exact follows_reject

/-- All readers of nodes follow the tokens within a number of nested steps. -/
structure NodesFollow (steps : Nat) : Prop where
  node : ∀ place, Follows (node steps place)
  content : ∀ place properties given, Follows (content steps place properties given)
  nodeUnless : ∀ place ends, Follows (nodeUnless steps place ends)
  blockItems : Follows (blockItems steps)
  dashedItems : Follows (dashedItems steps)
  blockEntries : Follows (blockEntries steps)
  flowEntry : ∀ closing, Follows (flowEntry steps closing)
  flowItems : ∀ first, Follows (flowItems steps first)
  flowEntries : ∀ first, Follows (flowEntries steps first)

namespace NodesFollow

variable {steps : Nat}

theorem zero : NodesFollow 0 := by
  constructor <;> intros <;> exact follows_reject

theorem succ_node (below : NodesFollow steps) (place : Place) :
    Follows (TokenReader.node (steps + 1) place) := by
  rw [TokenReader.node]
  refine follows_peek.bind fun next => ?_
  split
  · exact follows_drop.bind fun _ => follows_aliased _
  · refine follows_properties.bind fun properties => ?_
    refine (follows_givenTag? properties).bind fun given => ?_
    refine follows_peek.bind fun _ => (follows_requireNewAnchor properties).bind fun _ => ?_
    exact (below.content place properties given).bind fun node => follows_mark properties node

theorem succ_content (below : NodesFollow steps) (place : Place) (properties : Properties)
    (given : Option Tag) : Follows (TokenReader.content (steps + 1) place properties given) := by
  rw [TokenReader.content]
  refine follows_peek.bind fun next => ?_
  split
  · exact below.dashedItems.bind fun _ => .pure _
  · exact follows_drop.bind fun _ => .pure _
  · exact follows_drop.bind fun _ => (below.flowItems true).bind fun _ => .pure _
  · exact follows_drop.bind fun _ => (below.flowEntries true).bind fun _ => .pure _
  · exact follows_drop.bind fun _ => below.blockItems.bind fun _ => .pure _
  · exact follows_drop.bind fun _ => below.blockItems.bind fun _ => .pure _
  · exact follows_drop.bind fun _ => below.blockEntries.bind fun _ => .pure _
  · exact follows_drop.bind fun _ => below.blockEntries.bind fun _ => .pure _
  · exact .ite (.pure _) follows_reject

theorem succ_nodeUnless (below : NodesFollow steps) (place : Place) (ends : List Token) :
    Follows (TokenReader.nodeUnless (steps + 1) place ends) := by
  rw [TokenReader.nodeUnless]
  exact (follows_isNext ends).bind fun _ => .ite (.pure _) (below.node place)

theorem succ_blockItems (below : NodesFollow steps) :
    Follows (TokenReader.blockItems (steps + 1)) := by
  rw [TokenReader.blockItems]
  refine (follows_takeIf _).bind fun _ => .ite ?_ ?_
  · exact (below.nodeUnless _ _).bind fun _ => below.blockItems.bind fun _ => .pure _
  · exact (follows_require _).bind fun _ => .pure _

theorem succ_dashedItems (below : NodesFollow steps) :
    Follows (TokenReader.dashedItems (steps + 1)) := by
  rw [TokenReader.dashedItems]
  refine (follows_takeIf _).bind fun _ => .ite ?_ (.pure _)
  exact (below.nodeUnless _ _).bind fun _ => below.dashedItems.bind fun _ => .pure _

theorem succ_blockEntries (below : NodesFollow steps) :
    Follows (TokenReader.blockEntries (steps + 1)) := by
  rw [TokenReader.blockEntries]
  refine (follows_takeIf _).bind fun _ => .ite ?_ ?_
  · refine (below.nodeUnless _ _).bind fun _ => (follows_takeIf _).bind fun _ => .ite ?_ ?_
    · exact (below.nodeUnless _ _).bind fun _ => below.blockEntries.bind fun _ => .pure _
    · exact (Follows.pure _).bind fun _ => below.blockEntries.bind fun _ => .pure _
  · exact (follows_require _).bind fun _ => .pure _

theorem succ_flowEntry (below : NodesFollow steps) (closing : Token) :
    Follows (TokenReader.flowEntry (steps + 1) closing) := by
  rw [TokenReader.flowEntry]
  refine (below.nodeUnless _ _).bind fun _ => (follows_takeIf _).bind fun _ => .ite ?_ ?_
  · exact (below.nodeUnless _ _).bind fun _ => .pure _
  · exact (Follows.pure _).bind fun _ => .pure _

-- the comma before an item that is not the first changes nothing of what comes behind it
theorem succ_flowItems (below : NodesFollow steps) (first : Bool) :
    Follows (TokenReader.flowItems (steps + 1) first) := by
  rw [TokenReader.flowItems]
  refine (follows_takeIf _).bind fun _ => .ite (.pure _) ?_
  refine .ite ((follows_require _).bind fun _ => ?_) ?_
  all_goals
    refine (follows_takeIf _).bind fun _ => .ite (.pure _) ?_
    refine (follows_takeIf _).bind fun _ => .ite ?_ ?_
    · refine (below.flowEntry _).bind fun _ => (Follows.pure _).bind fun _ => ?_
      exact (below.flowItems false).bind fun _ => .pure _
    · exact (below.node .flow).bind fun _ => (below.flowItems false).bind fun _ => .pure _

theorem succ_flowEntries (below : NodesFollow steps) (first : Bool) :
    Follows (TokenReader.flowEntries (steps + 1) first) := by
  rw [TokenReader.flowEntries]
  refine (follows_takeIf _).bind fun _ => .ite (.pure _) ?_
  refine .ite ((follows_require _).bind fun _ => ?_) ?_
  all_goals
    refine (follows_takeIf _).bind fun _ => .ite (.pure _) ?_
    refine (follows_takeIf _).bind fun _ => .ite ?_ ?_
    · exact (below.flowEntry _).bind fun _ => (below.flowEntries false).bind fun _ => .pure _
    · refine (below.node .flow).bind fun _ => (Follows.pure _).bind fun _ => ?_
      exact (below.flowEntries false).bind fun _ => .pure _

end NodesFollow

/-- All readers of nodes follow the tokens. -/
theorem nodesFollow (steps : Nat) : NodesFollow steps := by
  induction steps with
  | zero => exact .zero
  | succ steps below =>
    exact {
      node := below.succ_node
      content := below.succ_content
      nodeUnless := below.succ_nodeUnless
      blockItems := below.succ_blockItems
      dashedItems := below.succ_dashedItems
      blockEntries := below.succ_blockEntries
      flowEntry := below.succ_flowEntry
      flowItems := below.succ_flowItems
      flowEntries := below.succ_flowEntries }

theorem follows_directives (versioned : Bool) (steps : Nat) :
    Follows (directives versioned steps) := by
  induction steps generalizing versioned with
  | zero => exact follows_reject
  | succ steps inductionHypothesis =>
    rw [directives]
    refine follows_peek.bind fun next => ?_
    split
    · exact follows_drop.bind fun _ => .ite follows_reject (inductionHypothesis true)
    · refine follows_drop.bind fun _ => follows_get.bind fun state => ?_
      refine .ite follows_reject ?_
      exact (follows_modify (by intro state; rfl)).bind fun _ => inductionHypothesis versioned
    · exact follows_drop.bind fun _ => inductionHypothesis versioned
    · exact .pure ()

theorem follows_announcement (steps : Nat) : Follows (announcement steps) := by
  refine (follows_directives false steps).bind fun _ => (follows_require _).bind fun _ => ?_
  exact follows_modify fun _ => rfl

theorem follows_rootUnlessEnded (steps : Nat) : Follows (rootUnlessEnded steps) := by
  refine follows_peek.bind fun next => ?_
  split
  all_goals first | exact .pure _ | exact (nodesFollow steps).node .block

theorem follows_ended (steps : Nat) : Follows (ended steps) := by
  induction steps with
  | zero => exact follows_reject
  | succ steps inductionHypothesis =>
    refine (follows_takeIf _).bind fun _ => .ite inductionHypothesis ?_
    refine follows_peek.bind fun next => ?_
    split
    · exact .pure ()
    · exact (follows_announcement steps).bind fun _ => follows_reject

theorem follows_root? (steps : Nat) : Follows (root? steps) := by
  have announced : Follows (do
      announcement steps
      let root ← rootUnlessEnded steps
      ended steps
      return some root) := by
    refine (follows_announcement steps).bind fun _ => ?_
    refine (follows_rootUnlessEnded steps).bind fun _ => ?_
    exact (follows_ended steps).bind fun _ => .pure _
  refine follows_peek.bind fun next => ?_
  split
  · exact .pure none
  · exact announced
  · exact announced
  · exact announced
  · exact announced
  · refine (follows_modify (by intro state; rfl)).bind fun _ => ?_
    refine ((nodesFollow steps).node .block).bind fun _ => ?_
    exact (follows_ended steps).bind fun _ => .pure _

/-- Tokens that form no document are invalid, or there is a fault at their end. -/
theorem document_eq_error {stream : TokenStream} {fault : Fault}
    (fails : document stream = .error fault) :
    fault = .invalidYaml ∨ stream.ending = some fault := by
  rw [document, Result.map_eq_error_iff] at fails
  exact (follows_root? _).fails fails

end FormEngine.Yaml.TokenReader
