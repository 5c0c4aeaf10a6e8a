import FormEngine.Proofs.Field.Content
import FormEngine.Store.Basic

/-!
# Changing a field

A change puts the attributes that are given in place of those of one field, and leaves everything
else in the store as it was. Attributes may come from two sources, of which the later one counts
where both name a part. The type of the field says what becomes of its options.
-/

namespace FormEngine

namespace Attributes

/-- Of two lists of attributes the later one answers a question, and where it does not the earlier
one. -/
theorem last?_append {α : Type} (earlier later : Attributes) (ask : Attribute → Option α) :
    (earlier ++ later).last? ask = (later.last? ask).or (earlier.last? ask) := by
  simp [last?, List.findSome?_append]

end Attributes

/-- A field stands at a place of a list, and none before it has its id. -/
structure Field.IsFirstAt (field : Field) (fields : List Field) (place : Nat) : Prop where
  there : fields[place]? = some field
  alone : ∀ earlier < place, ∀ other, fields[earlier]? = some other → other.id ≠ field.id

/-- The field that is found by an id is the first one with it. -/
theorem fieldWithId?_eq_some_iff {fields : List Field} {id : String} {field : Field} :
    fieldWithId? fields id = some field ↔
      field.id = id ∧ ∃ place, field.IsFirstAt fields place := by
  simp only [fieldWithId?, List.find?_eq_some_iff_getElem, beq_iff_eq]
  refine and_congr_right fun isId => ⟨?_, ?_⟩
  · rintro ⟨place, inside, there, others⟩
    refine ⟨place, List.getElem?_eq_some_iff.mpr ⟨inside, there⟩, ?_⟩
    intro earlier before other found
    obtain ⟨_, rfl⟩ := List.getElem?_eq_some_iff.mp found
    simpa [isId] using others earlier before
  · rintro ⟨place, there, alone⟩
    obtain ⟨inside, isField⟩ := List.getElem?_eq_some_iff.mp there
    refine ⟨place, inside, isField, fun earlier before => ?_⟩
    simpa [isId] using alone earlier before _ (List.getElem?_eq_getElem (by omega))

namespace FieldStore

/-- A field is required exactly if it is the first with the id. -/
theorem requireField_eq_ok_iff {store : FieldStore} {id : Value} {field : Field} :
    store.requireField id = .ok field ↔
      id = .str field.id ∧ ∃ place, field.IsFirstAt store.fields place := by
  cases id with
  | str text =>
    have found : store.requireField (.str text) = .ok field ↔
        fieldWithId? store.fields text = some field := by
      simp only [requireField, field?, Value.text?, Option.bind_some]
      split <;> simp_all
    rw [found, fieldWithId?_eq_some_iff, Value.str.injEq, eq_comm]
  | _ => simp [requireField, field?, Value.text?]

/-- Content is put in place of that of the first field with an id. -/
theorem setContent_of_isFirstAt {fields : List Field} {place : Nat} {field : Field}
    (first : field.IsFirstAt fields place) (content : FieldContent) :
    setContent field.id content fields =
      fields.set place { field with toFieldContent := content } := by
  induction fields generalizing place with
  | nil => cases first.there
  | cons head rest inductionHypothesis =>
    cases place with
    | zero =>
      obtain rfl := Option.some.inj first.there
      simp [setContent]
    | succ place =>
      have other : head.id ≠ field.id := first.alone 0 (Nat.succ_pos _) head rfl
      have later : field.IsFirstAt rest place :=
        ⟨first.there, fun earlier before => first.alone (earlier + 1) (by omega)⟩
      simp [setContent, other, inductionHypothesis later]

/-- A change of an attribute that all fields of a list share goes unnoticed. -/
theorem map_set_of_getElem? {α : Type} {f : Field → α} {fields : List Field} {place : Nat}
    {before field : Field} (there : fields[place]? = some before) (same : f field = f before) :
    (fields.set place field).map f = fields.map f := by
  obtain ⟨inside, rfl⟩ := List.getElem?_eq_some_iff.mp there
  have insideToo : place < (fields.map f).length := by rwa [List.length_map]
  rw [List.map_set, same, ← List.getElem_map f (h := insideToo), List.set_getElem_self]

/-- A change is made exactly if fields have all the attributes and none is locked, some field has
the id, and there is content that merges the attributes into its own. Then this field has the
content, with its id and its order, and nothing else in the store is changed. -/
theorem update_eq_ok_iff {store after : FieldStore} {id : Value} {attributes : Attributes}
    {field : Field} :
    store.update id attributes = .ok (field, after) ↔
      (∀ part ∈ attributes, part.isLocked = false ∧ part.isUnknown = false) ∧
      ∃ (place : Nat) (before : Field), before.IsFirstAt store.fields place ∧
        id = .str before.id ∧ field.id = before.id ∧ field.order = before.order ∧
        field.toFieldContent.Merges before.toFieldContent attributes ∧
        after = { store with fields := store.fields.set place field } := by
  simp only [update, Result.bind_eq_ok_iff, Attributes.checkUnlocked_eq_ok_iff,
    Attributes.checkKnown_eq_ok_iff, requireField_eq_ok_iff, FieldContent.change_eq_ok_iff]
  constructor
  · rintro ⟨_, unlocked, _, known, before, ⟨isId, place, first⟩, content, merges, same⟩
    obtain ⟨rfl, rfl⟩ := Prod.mk.inj (Except.ok.inj same)
    refine ⟨fun part member => ⟨unlocked part member, known part member⟩, place, before, first,
      isId, rfl, rfl, merges, ?_⟩
    rw [setContent_of_isFirstAt first]
  · rintro ⟨allowed, place, before, first, isId, sameId, sameOrder, merges, rfl⟩
    refine ⟨(), fun part member => (allowed part member).1,
      (), fun part member => (allowed part member).2,
      before, ⟨isId, place, first⟩, field.toFieldContent, merges, ?_⟩
    rw [setContent_of_isFirstAt first, ← sameId, ← sameOrder]
    rfl

/-- A change is an exact merge. It is made exactly if fields have all the attributes and none is
locked, some field has the id, and there is content that merges the attributes into its own. Then
this field has the content, with its id and its order, and nothing else in the store is changed. Of
two attributes with one name the later counts. -/
theorem update_merges (store after : FieldStore) (id : Value) (updates keywords : Attributes)
    (field : Field) :
    (∀ {α : Type} (ask : Attribute → Option α),
      (updates ++ keywords).last? ask = (keywords.last? ask).or (updates.last? ask)) ∧
    (store.update id (updates ++ keywords) = .ok (field, after) ↔
      (∀ part ∈ updates ++ keywords, part.isLocked = false ∧ part.isUnknown = false) ∧
      ∃ (place : Nat) (before : Field), before.IsFirstAt store.fields place ∧
        id = .str before.id ∧ field.id = before.id ∧ field.order = before.order ∧
        field.toFieldContent.Merges before.toFieldContent (updates ++ keywords) ∧
        after = { store with fields := store.fields.set place field }) :=
  ⟨fun ask => Attributes.last?_append updates keywords ask, update_eq_ok_iff⟩

/-- A text field becomes one with options by attributes from two sources, which both name its label.
It stays where it is, and the field behind it is left alone. -/
theorem update_merges_toChoice :
    let store : FieldStore := {
      ids := .counting "f"
      selected := some "b"
      fields := renumber [{ type := .text, label := .str "Name", id := "a" },
        { type := .number, label := .str "Age", id := "b" }] }
    let updates : Attributes := [.label (.str "Shirt"), .type (.str "radio")]
    let keywords : Attributes :=
      [.options (.value (.list [.str "S", .record [("label", .str "Large")]])),
        .validationRules (.value .null), .label (.str "Size")]
    ∃ field after, store.update (.str "a") (updates ++ keywords) = .ok (field, after) ∧
      (updates ++ keywords).label? = some (.str "Size") ∧
      field.toFieldContent.Merges { type := .text, label := .str "Name" } (updates ++ keywords) ∧
      field.options = [⟨"S", "S"⟩, ⟨"Large", "Large"⟩] ∧
      after = { store with fields := store.fields.set 0 field } := by
  intro store updates keywords
  let sizes : List Choice := [⟨"S", "S"⟩, ⟨"Large", "Large"⟩]
  let before : Field := { type := .text, label := .str "Name", id := "a" }
  let field : Field := { type := .radio, label := .str "Size", options := sizes, id := "a" }
  obtain ⟨precedence, returns⟩ := update_merges store _ (.str "a") updates keywords field
  have merges : field.toFieldContent.Merges before.toFieldContent (updates ++ keywords) :=
    { type := rfl, label := rfl, placeholder := rfl, description := rfl, required := rfl
      validationRules := .nothing rfl, conditionalRules := rfl, defaultValue := rfl
      options := ⟨sizes, ⟨_, .items rfl rfl, rfl⟩, by simp [sizes], rfl⟩ }
  have first : before.IsFirstAt store.fields 0 :=
    ⟨rfl, fun earlier impossible => absurd impossible (Nat.not_lt_zero earlier)⟩
  exact ⟨field, _, returns.mpr ⟨by decide, 0, before, first, rfl, rfl, rfl, merges, rfl⟩,
    precedence _, merges, rfl, rfl⟩

end FieldStore

end FormEngine
