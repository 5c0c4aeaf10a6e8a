import FormEngine.Proofs.Document.Readable

/-!
# How fields are arranged

The fields that a document holds are numbered in the ascending order of the positions that they
declare. Each entry of the document becomes exactly one field, and entries that declare the same
position keep their order.
-/

namespace FormEngine

/-- The places of a list in the order of the positions that its entries declare: every place is
there once, in ascending order of positions, and where these are equal in the order of places. -/
structure StablyOrders (positions : List Int) (places : List Nat) : Prop where
  all : places.Perm (List.range positions.length)
  ascending : places.Pairwise fun earlier later => ∀ first second,
    positions[earlier]? = some first → positions[later]? = some second →
      first < second ∨ first = second ∧ earlier < later

/-- There is one stable order only. -/
theorem StablyOrders.unique {positions : List Int} {places others : List Nat}
    (stable : StablyOrders positions places) (otherStable : StablyOrders positions others) :
    places = others := by
  refine (stable.all.trans otherStable.all.symm).eq_of_pairwise ?_ stable.ascending
    otherStable.ascending
  intro place other isPlace isOther inOrder reversed
  have inside : place < positions.length := List.mem_range.mp (stable.all.subset isPlace)
  have otherInside : other < positions.length :=
    List.mem_range.mp (otherStable.all.subset isOther)
  have least := inOrder _ _ (List.getElem?_eq_getElem inside) (List.getElem?_eq_getElem otherInside)
  have greatest := reversed _ _ (List.getElem?_eq_getElem otherInside)
    (List.getElem?_eq_getElem inside)
  omega

/-- A stable sort by positions is given by the places that stably order them. -/
theorem exists_places_mergeSort {α : Type} (position : α → Int) (items : List α) :
    ∃ places, StablyOrders (items.map position) places ∧
      List.Forall₂ (fun place item => items[place]? = some item) places
        (items.mergeSort fun left right => position left ≤ position right) := by
  let atMost (left right : α) : Bool := position left ≤ position right
  -- Items that are sorted along with their places still tell where they came from.
  let sorted := items.zipIdx.mergeSort (List.zipIdxLE atMost)
  have permuted : sorted.Perm items.zipIdx := List.mergeSort_perm ..
  have ascending : sorted.Pairwise fun earlier later =>
      List.zipIdxLE atMost earlier later = true := by
    refine List.pairwise_mergeSort (List.zipIdxLE_trans ?_) (List.zipIdxLE_total ?_) _
    · intro first second third
      simp only [atMost, decide_eq_true_eq]
      omega
    · intro first second
      simp only [atMost, Bool.or_eq_true, decide_eq_true_eq]
      omega
  have located : ∀ entry ∈ sorted, items[entry.2]? = some entry.1 := fun entry member =>
    List.mem_zipIdx_iff_getElem?.mp (permuted.mem_iff.mp member)
  have places : (sorted.map (·.2)).Perm (List.range items.length) := by
    have numbered := permuted.map (·.2)
    rwa [List.zipIdx_map_snd, ← List.range_eq_range'] at numbered
  refine ⟨sorted.map (·.2), ⟨by simpa using places, ?_⟩, ?_⟩
  · have distinct := List.pairwise_map.mp (places.nodup_iff.mpr List.nodup_range)
    refine List.pairwise_map.mpr ((ascending.and distinct).imp_of_mem ?_)
    rintro earlier later earlierIn laterIn ⟨ordered, different⟩ first second isFirst isSecond
    simp only [List.getElem?_map, located earlier earlierIn, located later laterIn,
      Option.map_some, Option.some.injEq] at isFirst isSecond
    simp only [List.zipIdxLE, atMost, decide_eq_true_eq] at ordered
    split at ordered
    · split at ordered
      · simp only [decide_eq_true_eq] at ordered
        omega
      · omega
    · cases ordered
  · rw [← List.mergeSort_zipIdx, List.forall₂_map_left_iff, List.forall₂_map_right_iff,
      List.forall₂_same]
    exact located

/-- Numbering keeps what each field has with its counterpart, if the order has no part in it. -/
theorem forall₂_renumber {α : Type} {relation : α → Field → Prop} {items : List α}
    {fields : List Field} (related : List.Forall₂ relation items fields)
    (numbered : ∀ item field position, relation item field →
      relation item (field.withOrder position)) :
    List.Forall₂ relation items (renumber fields) := by
  rw [List.forall₂_iff_get] at related ⊢
  refine ⟨by simpa [renumber] using related.1, fun index inItems inNumbered => ?_⟩
  have inFields : index < fields.length := by simpa [renumber] using inNumbered
  simpa [renumber] using numbered _ _ index (related.2 index inItems inFields)

/-- Arranging fields keeps their content and ids, in a stable order of their positions. -/
theorem exists_places_arrange (fields : List PlacedField) :
    ∃ places, StablyOrders (fields.map (·.position)) places ∧
      List.Forall₂ (fun place field => ∃ placed, fields[place]? = some placed ∧
        field.toFieldContent = placed.toFieldContent ∧ field.id = placed.id)
        places (arrange fields) := by
  obtain ⟨places, stable, sorted⟩ := exists_places_mergeSort PlacedField.position fields
  refine ⟨places, stable, ?_⟩
  rw [arrange]
  refine forall₂_renumber
    (List.forall₂_map_right_iff.mpr (sorted.imp fun place placed isThere => ?_))
    fun place field position => ?_
  · exact ⟨placed, isThere, rfl, rfl⟩
  · rintro ⟨placed, isThere, content, id⟩
    exact ⟨placed, isThere, content, id⟩

/-- The entries that a document has as its fields. A document without any is taken only where
reading is lenient. -/
def HoldsEntries (strict : Bool) (document : Value) (documents : List Value) : Prop :=
  ∃ wrapped, document = .map wrapped ∧
    ((unwrap wrapped).part "fields" = .list documents ∨
      strict = false ∧ (unwrap wrapped).part "fields" = .null ∧ documents = [])

/-- The position that an entry declares. -/
def DeclaresPosition (document : Value) (position : Int) : Prop :=
  ∃ entries, document = .map entries ∧ readPosition (Entries.part entries "order") = .ok position

/-- A field with the content and the id that are read from an entry. -/
def Field.IsReadFrom (field : Field) (document : Value) : Prop :=
  ∃ supply placed, (readField supply document).1 = .ok placed ∧
    field.toFieldContent = placed.toFieldContent ∧ field.id = placed.id

/-- What is opened of a document are its entries. -/
theorem holdsEntries_of_openForm {strict : Bool} {document : Value} {entries : Entries}
    {documents : List Value} (opened : openForm strict document = .ok (entries, documents)) :
    HoldsEntries strict document documents := by
  cases document with
  | map wrapped =>
    refine ⟨wrapped, rfl, ?_⟩
    simp only [openForm] at opened
    split at opened
    next missing =>
      split at opened
      · cases opened
      next lenient =>
        cases opened
        exact .inr ⟨by simpa using lenient, missing, rfl⟩
    next items isList =>
      cases opened
      exact .inl isList
    · cases opened
  | _ => cases opened

/-- A field that is read has the position that its entry declares. -/
theorem declaresPosition_of_readField {supply : Supply} {document : Value} {placed : PlacedField}
    (read : (readField supply document).1 = .ok placed) :
    DeclaresPosition document placed.position := by
  obtain ⟨entries, _, _, _, isMap, -, contentRead⟩ := readField_eq_ok read
  simp only [readContent, Result.bind_eq_ok_iff] at contentRead
  obtain ⟨_, -, _, -, _, -, _, -, _, -, position, positionRead, same⟩ := contentRead
  cases same
  exact ⟨entries, isMap, positionRead⟩

/-- The fields of a form that was read, each of one entry of the document, in a stable order of the
positions that the entries declare. -/
theorem exists_places_of_readForm {strict : Bool} {supply : Supply} {document : Value} {form : Form}
    (read : (readForm strict supply document).result = .ok form) :
    ∃ documents positions places, HoldsEntries strict document documents ∧
      List.Forall₂ DeclaresPosition documents positions ∧ StablyOrders positions places ∧
      List.Forall₂ (fun place field => ∃ entry, documents[place]? = some entry ∧
        field.IsReadFrom entry) places form.fields := by
  obtain ⟨entries, documents, _, _, claimed, fields, _, opened, -, -, fieldsRead, -, rfl, -⟩ :=
    readForm_eq_ok read
  have each := forall₂_readFields (congrArg Prod.fst fieldsRead)
  obtain ⟨places, stable, arranged⟩ := exists_places_arrange fields
  refine ⟨documents, fields.map (·.position), places, holdsEntries_of_openForm opened, ?_, stable,
    arranged.imp ?_⟩
  · rw [List.forall₂_map_right_iff]
    exact each.imp fun document placed ⟨_, _, isRead⟩ => declaresPosition_of_readField isRead
  · rintro place field ⟨placed, isThere, content, id⟩
    obtain ⟨lengths, related⟩ := List.forall₂_iff_get.mp each
    obtain ⟨inFields, rfl⟩ := List.getElem?_eq_some_iff.mp isThere
    have inDocuments : place < documents.length := lengths ▸ inFields
    obtain ⟨drawn, -, isRead⟩ := related place inDocuments inFields
    exact ⟨documents[place], List.getElem?_eq_getElem inDocuments, drawn, fields[place], isRead,
      content, id⟩

end FormEngine
