import FormEngine.Proofs.Document.Arrangement
import FormEngine.Proofs.Sorting
import FormEngine.Proofs.Store.Order
import FormEngine.Proofs.Value.Order
import FormEngine.Session.Basic

/-!
# Loading forms in order

A form whose fields have distinct ids and their places as their orders is loaded as it is: neither
sorting nor numbering changes it, and the session shows the same form. Every form that is read from
a document is of this kind, so reading arranges the fields once and for all.
-/

namespace FormEngine

/-- Sorting leaves numbered fields as they are. -/
theorem FieldStore.sortByOrder_of_placed {fields : List Field} (placed : Placed fields) :
    FieldStore.sortByOrder fields = .ok fields := by
  refine Sorting.sort_of_isChain (List.isChain_iff_getElem.mpr fun index inside => ?_)
  have earlier := placed index _ (List.getElem?_eq_getElem (by omega))
  have later := placed (index + 1) _ (List.getElem?_eq_getElem inside)
  rw [earlier, later, Value.before_int, decide_eq_false (by omega)]

/-- Replacing fields by numbered ones with distinct ids takes them as they are. -/
theorem FieldStore.replace_of_placed (store : FieldStore) {fields : List Field}
    (placed : Placed fields) (distinct : (fields.map (·.id)).Nodup) :
    store.replace fields = .ok { store with fields, selected := none, preview := {} } := by
  have unrepeated : repeatedId? [] fields = none := by
    simpa using repeatedId?_eq_none_iff.mpr ⟨distinct, by simp⟩
  simp [replace, sortByOrder_of_placed placed, unrepeated, placed.renumber]

/-- Of fields with distinct ids the one with an id is found by it. -/
theorem fieldWithId?_of_mem {fields : List Field} (distinct : (fields.map (·.id)).Nodup)
    {field : Field} (member : field ∈ fields) : fieldWithId? fields field.id = some field := by
  cases found : fieldWithId? fields field.id with
  | none =>
    have differs := List.find?_eq_none.mp found field member
    simp at differs
  | some other =>
    have sameId : other.id = field.id := by simpa using List.find?_some found
    rw [List.inj_on_of_nodup_map distinct (List.mem_of_find?_eq_some found) member sameId]

namespace Session

/-- The members that are certain fields of a store with distinct ids have these fields. -/
theorem filterMap_field?_shared {store : FieldStore} (distinct : store.fieldIds.Nodup)
    {fields : List Field} (stored : fields ⊆ store.fields) :
    (fields.map fun field => Member.shared field.id).filterMap (Member.field? store) = fields := by
  rw [List.filterMap_map]
  refine (List.filterMap_congr fun field member => ?_).trans List.filterMap_some
  exact fieldWithId?_of_mem distinct (stored member)

/-- A form whose members are the fields of a store with distinct ids has these fields. -/
theorem form_membersOf (header : FormHeader) {store : FieldStore}
    (distinct : store.fieldIds.Nodup) :
    ({ header, members := membersOf store } : CurrentForm).form store =
      { header with fields := store.fields } := by
  simp only [CurrentForm.form, membersOf, filterMap_field?_shared distinct (List.Subset.refl _)]

/-- A form in order is loaded as it is. -/
theorem loadForm_of_placed (session : Session) {form : Form} (placed : Placed form.fields)
    (distinct : form.fieldIds.Nodup) :
    ∃ after, session.loadForm form = .ok (form, after) ∧ after.store.fields = form.fields ∧
      after.currentForm? = some form := by
  let store : FieldStore :=
    { session.store with fields := form.fields, selected := none, preview := {} }
  have replaced : session.store.replace form.fields = .ok store :=
    session.store.replace_of_placed placed distinct
  have shown : ({ header := form.toFormHeader, members := membersOf store } : CurrentForm).form
      store = form := form_membersOf form.toFormHeader distinct
  refine ⟨_, by simp only [loadForm, replaced, Result.ok_bind, shown]; rfl, rfl, ?_⟩
  simp [currentForm?, shown]

end Session

/-- What is read of a document is a form in order: no two of its fields share an id, each has its
place as its order, and those that offer options have one. Its fields are those of the entries of
the document, each of one, in a stable order of the positions that the entries declare; and any
session that loads the form keeps exactly these fields. -/
theorem fields_of_readForm (strict : Bool) (supply : Supply) (document : Value) (form : Form)
    (read : (readForm strict supply document).result = .ok form) :
    form.fieldIds.Nodup ∧ Placed form.fields ∧ (∀ field ∈ form.fields, field.OffersOptions) ∧
    (∃ documents positions places, HoldsEntries strict document documents ∧
      List.Forall₂ DeclaresPosition documents positions ∧ StablyOrders positions places ∧
      List.Forall₂ (fun place field => ∃ entry, documents[place]? = some entry ∧
        field.IsReadFrom entry) places form.fields) ∧
    ∀ session : Session, (session.load form).result = .ok form ∧
      (session.load form).session.store.fields = form.fields ∧
      (session.load form).session.currentForm? = some form := by
  obtain ⟨distinct, placed⟩ := distinct_and_placed_of_readForm read
  refine ⟨distinct, placed, offersOptions_of_readForm read, exists_places_of_readForm read,
    fun session => ?_⟩
  obtain ⟨after, loaded, stored, isCurrent⟩ := session.loadForm_of_placed placed distinct
  have step : session.load form = { result := .ok form, session := after } := by
    simp only [Session.load, loaded, Session.stepOf]
  rw [step]
  exact ⟨rfl, stored, isCurrent⟩

/-- A wrapped document whose entries declare their positions as a truth value, a text, not at all,
and as a number that the first declares too. -/
def scatteredDocument : Value :=
  .record [
    ("form", .record [("title", .str "Scattered")]),
    ("fields", .list [
      .record [("id", .str "a"), ("type", .str "text"), ("order", .bool true)],
      .record [("type", .str "number"), ("order", .str " -3 ")],
      .record [("id", .int 7), ("type", .str "select"), ("options", .list [.str "x"])],
      .record [("id", .str "b"), ("type", .str "text"), ("order", .int 1)]])]

/-- The scattered entries make a form in order, which any session keeps as it is. -/
theorem fields_of_readForm_scattered :
    ∃ form,
      (readForm true ⟨.counting "f", .still .startOf2024⟩ scatteredDocument).result = .ok form ∧
      form.fieldIds.Nodup ∧ Placed form.fields ∧
      ∀ session : Session, (session.load form).session.currentForm? = some form := by
  have reads : (readForm true ⟨.counting "f", .still .startOf2024⟩ scatteredDocument).result.isOk =
      true := by
    decide +kernel
  obtain ⟨form, read⟩ := Result.exists_of_isOk reads
  obtain ⟨distinct, placed, -, -, loads⟩ := fields_of_readForm _ _ _ form read
  exact ⟨form, read, distinct, placed, fun session => (loads session).2.2⟩

end FormEngine
