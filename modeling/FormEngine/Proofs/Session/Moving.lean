import FormEngine.Proofs.Permutation
import FormEngine.Proofs.Session.Turn
import FormEngine.Yaml.Library

/-!
# Moving the fields of a session

Moves put the fields of a session in another order and number them anew, and leave the answers as
they are. So a session submits the same after any moves as before them.
-/

namespace FormEngine

/-- The store with its fields in another order and the answers that it had. -/
structure FieldStore.IsRearranged (after before : FieldStore) : Prop where
  fields : (after.fields.map Field.unplaced).Perm (before.fields.map Field.unplaced)
  preview : after.preview = before.preview

/-- Moving a field rearranges a store. -/
theorem FieldStore.isRearranged_of_move {store after : FieldStore} {source target : Value}
    (moved : store.move source target = .ok after) : after.IsRearranged store := by
  obtain ⟨fields, permuted, rfl⟩ := move_eq_ok moved
  refine ⟨?_, rfl⟩
  rw [map_unplaced_renumber]
  exact permuted.map _

namespace Session

/-- What submitting gives is the evaluation of the fields. -/
theorem result_submit (session : Session) :
    session.submit.result =
      FormEngine.evaluate session.store.fields session.store.preview.answers := by
  simp only [submit, evaluate]
  cases FormEngine.evaluate session.store.fields session.store.preview.answers <;> rfl

/-- A call to move a field rearranges the store, or leaves it as it is where it fails. -/
theorem isRearranged_perform_move (session : Session) (source target : Value) :
    (session.perform (.move source target)).session.store.IsRearranged session.store :=
  of_stepOf_return (fun after => after.store.IsRearranged session.store) ⟨.refl _, rfl⟩
    fun _ moved => FieldStore.isRearranged_of_move moved

/-- So do any moves. -/
theorem isRearranged_run_moves (session : Session) (moves : List (Value × Value)) :
    (session.run (moves.map fun move => .move move.1 move.2)).store.IsRearranged session.store := by
  induction moves generalizing session with
  | nil => exact ⟨.refl _, rfl⟩
  | cons move rest inductionHypothesis =>
    have first := session.isRearranged_perform_move move.1 move.2
    have later := inductionHypothesis (session.perform (.move move.1 move.2)).session
    exact ⟨later.fields.trans first.fields, later.preview.trans first.preview⟩

/-- The order of fields does not count. A form whose fields have distinct ids is evaluated to the
same in every order. So a session, however it came about, submits the same after any moves as
before them. -/
theorem submit_after_moves :
    (∀ (fields others : List Field) (answers : Answers), (fields.map (·.id)).Nodup →
      others.Perm fields →
        SameOutcome (FormEngine.evaluate others answers) (FormEngine.evaluate fields answers)) ∧
    ∀ (ids : IdSource) (clock : Clock) (yaml : YamlLibrary) (calls : List SessionCall)
      (moves : List (Value × Value)),
      let session := (new ids clock yaml).run calls
      let moved := session.run (moves.map fun move => .move move.1 move.2)
      SameOutcome moved.submit.result session.submit.result := by
  refine ⟨fun fields others answers distinctIds permuted =>
    sameOutcome_of_perm distinctIds permuted, fun ids clock yaml calls moves => ?_⟩
  intro session moved
  have orderly : session.store.Orderly := orderly_run (FieldStore.orderly_empty ids) calls
  have rearranged : moved.store.IsRearranged session.store :=
    session.isRearranged_run_moves moves
  rw [result_submit, result_submit, rearranged.preview]
  exact sameOutcome_of_perm_unplaced orderly.distinct rearranged.fields _

/-- A field that must be answered, shown by an answer to the field behind it, which is there. -/
def followUpCalls : List SessionCall :=
  [.add (.str "text") [.label (.str "Reason"), .required (.bool true), .conditionalRules
      (.entries [.proper { trigger := .str "f2", operator := .known .notEmpty }])],
    .add (.str "text") [.label (.str "Complaint")], .answer (.str "f2") (.str "Noise")]

/-- Behind the field that it depends on it is shown just so, and just so it is missed. -/
theorem submit_after_moves_followUpCalls :
    let session := (new (.counting "f") (.still .startOf2024) Yaml.library).run followUpCalls
    let moved := session.run ([(.int 0, .int 1), (.int 0, .int 2)].map fun move =>
      .move move.1 move.2)
    (session.store.fields.map (·.id)).Nodup ∧
      session.store.fields.reverse.Perm session.store.fields ∧
      SameOutcome (FormEngine.evaluate session.store.fields.reverse {})
        (FormEngine.evaluate session.store.fields {}) ∧
      ∃ before after, session.submit.result = .ok before ∧ moved.submit.result = .ok after ∧
        before.visible = ["f1", "f2"] ∧ after.visible = ["f2", "f1"] ∧
        before.errors.get? "f1" = some (.str "Reason is required") ∧ after.Matches before := by
  intro session moved
  obtain ⟨ofPerm, ofMoves⟩ := submit_after_moves
  have distinctIds : (session.store.fields.map (·.id)).Nodup := by decide
  have reversed : session.store.fields.reverse.Perm session.store.fields := List.reverse_perm _
  obtain ⟨before, isBefore, visibleBefore, message⟩ :
      ∃ before, session.submit.result = .ok before ∧ before.visible = ["f1", "f2"] ∧
        before.errors.get? "f1" = some (.str "Reason is required") := ⟨_, rfl, rfl, rfl⟩
  obtain ⟨after, isAfter, visibleAfter⟩ :
      ∃ after, moved.submit.result = .ok after ∧ after.visible = ["f2", "f1"] := ⟨_, rfl, rfl⟩
  have same : SameOutcome moved.submit.result session.submit.result :=
    ofMoves (.counting "f") (.still .startOf2024) Yaml.library followUpCalls
      [(.int 0, .int 1), (.int 0, .int 2)]
  rw [isBefore, isAfter] at same
  cases same with
  | evaluated matching =>
    exact ⟨distinctIds, reversed, ofPerm _ _ {} distinctIds reversed, before, after, isBefore,
      isAfter, visibleBefore, visibleAfter, message, matching⟩

end Session

end FormEngine
