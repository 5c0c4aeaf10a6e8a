import FormEngine.Store.Basic

/-!
# Runs of a field store

A host edits a store by calls. A refused call is an ordinary part of a run: the host goes on from
whatever state the call left, so a run has a next state for every call.
-/

namespace FormEngine

/-- A call of an editing operation of a store, with its arguments. -/
inductive StoreCall where
  | add (type : Value) (attributes : Attributes)
  | update (id : Value) (attributes : Attributes)
  | delete (id : Value)
  | move (source target : Value)
  | select (id : Value)
  | replace (fields : List Field)

/-- The fields that a call hands over. -/
def StoreCall.given : StoreCall → List Field
  | .replace fields => fields
  | _ => []

/-- An outcome without what it gives. -/
def Outcome.plain {σ α : Type} (outcome : Outcome σ α) : Outcome σ Unit :=
  ⟨outcome.result.map fun _ => (), outcome.state⟩

namespace FieldStore

/-- The outcome of an operation that gives nothing but the state after it. -/
def changed (store : FieldStore) (result : Except Fault FieldStore) : Outcome FieldStore Unit :=
  .ofExcept store (result.map fun after => ((), after))

/-- The outcome of a call. -/
def perform (store : FieldStore) : StoreCall → Outcome FieldStore Unit
  | .add type attributes => (store.add type attributes).plain
  | .update id attributes => (Outcome.ofExcept store (store.update id attributes)).plain
  | .delete id => (store.delete id).plain
  | .move source target => store.changed (store.move source target)
  | .select id => store.changed (store.select id)
  | .replace fields => store.changed (store.replace fields)

/-- The state after calls, whether these succeed or fail. -/
def run (store : FieldStore) (calls : List StoreCall) : FieldStore :=
  calls.foldl (fun store call => (store.perform call).state) store

/-- The states of a store that is built of some fields with a source of ids and then edited by
calls, whether these succeed or fail. -/
inductive Reached (ids : IdSource) (fields : List Field) : FieldStore → Prop where
  | built {store : FieldStore} (construction : ofFields ids fields = .ok store) :
      Reached ids fields store
  | called {store : FieldStore} (earlier : Reached ids fields store) (call : StoreCall) :
      Reached ids fields (store.perform call).state

end FieldStore

end FormEngine
