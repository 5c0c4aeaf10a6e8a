import FormEngine.Proofs.Document.Canonical
import FormEngine.Proofs.Field.Content
import FormEngine.Proofs.Store.Order

/-!
# Options of the fields of a store

A field that is made or changed by a store gets the options that its type needs, or is refused.
Fields that are handed over are taken as they are, so one that lacks options comes in that way and
in no other. It stays what it was, but for its position and the conditions on deleted fields, until
a change gives it options or another type.
-/

namespace FormEngine

/-- The field is another one, but for its position and its conditions. -/
def Field.StemsFrom (field origin : Field) : Prop :=
  ∃ order conditionalRules, field = { origin with order, conditionalRules }

namespace Field.StemsFrom

variable {field middle origin : Field}

protected theorem refl (field : Field) : field.StemsFrom field := ⟨_, _, rfl⟩

protected theorem trans (upper : field.StemsFrom middle) (lower : middle.StemsFrom origin) :
    field.StemsFrom origin := by
  obtain ⟨_, _, rfl⟩ := upper
  obtain ⟨_, _, rfl⟩ := lower
  exact ⟨_, _, rfl⟩

/-- A field has the options that it needs if the one that it stems from has them. -/
theorem offersOptions_iff (stems : field.StemsFrom origin) :
    field.OffersOptions ↔ origin.OffersOptions := by
  obtain ⟨_, _, rfl⟩ := stems
  rfl

end Field.StemsFrom

/-- A numbered field stems from the field that was numbered. -/
theorem Field.stemsFrom_withOrder (field : Field) (position : Nat) :
    (field.withOrder position).StemsFrom field :=
  ⟨_, _, rfl⟩

/-- Fields that lack the options that they need stem from origins, one by one. -/
def LackingFrom (origins fields : List Field) : Prop :=
  ∀ field ∈ fields, ¬field.OffersOptions → ∃ origin ∈ origins, field.StemsFrom origin

namespace LackingFrom

variable {origins origins' fields fields' : List Field}

/-- Fields that all stem from origins. -/
theorem of_stems (stem : ∀ field ∈ fields, ∃ origin ∈ origins, field.StemsFrom origin) :
    LackingFrom origins fields :=
  fun field member _ => stem field member

/-- Fields that are origins. -/
theorem of_subset (subset : fields ⊆ origins) : LackingFrom origins fields :=
  fun field member _ => ⟨field, subset member, .refl field⟩

/-- Fields none of which lacks options. -/
theorem of_offers (offers : ∀ field ∈ fields, field.OffersOptions) : LackingFrom origins fields :=
  fun field member lacks => absurd (offers field member) lacks

theorem mono (lacking : LackingFrom origins fields) (subset : origins ⊆ origins') :
    LackingFrom origins' fields := by
  intro field member lacks
  obtain ⟨origin, isOrigin, stems⟩ := lacking field member lacks
  exact ⟨origin, subset isOrigin, stems⟩

theorem append (left : LackingFrom origins fields) (right : LackingFrom origins fields') :
    LackingFrom origins (fields ++ fields') := by
  intro field member lacks
  rcases List.mem_append.mp member with isLeft | isRight
  · exact left field isLeft lacks
  · exact right field isRight lacks

/-- What the origins of fields lack, they lack from their own origins. -/
theorem trans (lower : LackingFrom origins origins') (upper : LackingFrom origins' fields) :
    LackingFrom origins fields := by
  intro field member lacks
  obtain ⟨middle, isMiddle, stems⟩ := upper field member lacks
  obtain ⟨origin, isOrigin, middleStems⟩ :=
    lower middle isMiddle (mt stems.offersOptions_iff.mpr lacks)
  exact ⟨origin, isOrigin, stems.trans middleStems⟩

/-- In a run, fields that lack options stem from what was there and from what the calls give, if
they do so in every step. -/
theorem foldl {σ κ : Type} {held : σ → List Field} {given : κ → List Field} {next : σ → κ → σ}
    (step : ∀ state call, LackingFrom (held state ++ given call) (held (next state call)))
    (start : σ) (calls : List κ) :
    LackingFrom (held start ++ calls.flatMap given) (held (calls.foldl next start)) := by
  induction calls generalizing start with
  | nil => exact of_subset (by simp)
  | cons call rest inductionHypothesis =>
    have first : LackingFrom (held start ++ (call :: rest).flatMap given) (held (next start call)) :=
      (step start call).mono (by simp)
    have later : LackingFrom (held start ++ (call :: rest).flatMap given) (rest.flatMap given) :=
      of_subset (by simp)
    exact (first.append later).trans (inductionHypothesis (next start call))

end LackingFrom

namespace FieldStore

/-- Numbered fields stem from the fields that were numbered. -/
theorem stems_renumber {fields : List Field} :
    ∀ field ∈ renumber fields, ∃ origin ∈ fields, field.StemsFrom origin := by
  intro field member
  obtain ⟨original, inFields, position, rfl⟩ := mem_renumber member
  exact ⟨original, inFields, original.stemsFrom_withOrder position⟩

/-- However far scrubbing gets, the fields stem from what they were. -/
theorem stems_scrub {id : String} {fields : List Field} :
    ∀ field ∈ (scrub id fields).state, ∃ origin ∈ fields, field.StemsFrom origin := by
  induction fields with
  | nil => simp [scrub]
  | cons first rest inductionHypothesis =>
    intro field member
    simp only [scrub] at member
    split at member
    · exact ⟨field, member, .refl field⟩
    · next scrubbed done =>
      obtain ⟨kept, rfl⟩ := scrubField_eq_ok done
      rcases List.mem_cons.mp member with rfl | later
      · exact ⟨first, .head _, _, _, rfl⟩
      · obtain ⟨origin, isOrigin, stems⟩ := inductionHypothesis field later
        exact ⟨origin, .tail _ isOrigin, stems⟩

variable {store after : FieldStore}

/-- Adding a field brings in none that lacks options. -/
theorem lackingFrom_add (store : FieldStore) (type : Value) (attributes : Attributes) :
    LackingFrom store.fields (store.add type attributes).state.fields := by
  generalize outcome : store.add type attributes = came
  cases outcome ▸ store.addition type attributes with
  | refused | exhausted => exact .of_subset (List.Subset.refl _)
  | added _ _ new =>
    refine .append (.of_subset (List.Subset.refl _)) (.of_offers fun field member => ?_)
    obtain rfl := List.mem_singleton.mp member
    exact new.options_ne_nil_iff.mpr

/-- Changing a field brings in none that lacks options. -/
theorem lackingFrom_update {id : Value} {attributes : Attributes} {field : Field}
    (done : store.update id attributes = .ok (field, after)) :
    LackingFrom store.fields after.fields := by
  obtain ⟨-, place, before, -, -, -, -, merges, rfl⟩ := update_eq_ok_iff.mp done
  intro other member lacks
  rcases List.mem_or_eq_of_mem_set member with wasThere | rfl
  · exact ⟨other, wasThere, .refl other⟩
  · exact absurd merges.options_ne_nil lacks

/-- Deleting a field, or failing to, brings in no field. -/
theorem lackingFrom_delete (store : FieldStore) (id : Value) :
    LackingFrom store.fields (store.delete id).state.fields := by
  unfold FieldStore.delete
  split
  · next index text found =>
    have remaining : LackingFrom store.fields (store.fields.eraseIdx index) :=
      .of_subset (List.eraseIdx_subset ..)
    exact (remaining.trans (.of_stems stems_renumber)).trans (.of_stems stems_scrub)
  · exact .of_subset (List.Subset.refl _)
  · exact .of_subset (List.Subset.refl _)

/-- Moving a field brings in no field. -/
theorem lackingFrom_move {source target : Value} (done : store.move source target = .ok after) :
    LackingFrom store.fields after.fields := by
  obtain ⟨moved, permuted, rfl⟩ := move_eq_ok done
  exact (LackingFrom.of_subset permuted.subset).trans (.of_stems stems_renumber)

/-- Selecting a field leaves the fields as they are. -/
theorem fields_of_select {id : Value} (done : store.select id = .ok after) :
    after.fields = store.fields := by
  obtain ⟨selected, -, rfl⟩ := select_eq_ok done
  rfl

/-- Fields that replace others stem from those that are handed over. -/
theorem lackingFrom_replace {fields : List Field} (done : store.replace fields = .ok after) :
    LackingFrom fields after.fields := by
  obtain ⟨sorted, permuted, -, rfl⟩ := replace_eq_ok done
  exact (LackingFrom.of_subset permuted.subset).trans (.of_stems stems_renumber)

/-- Some field lacks options after replacing exactly if one that was handed over lacks them. -/
theorem exists_lacking_replace_iff {fields : List Field}
    (done : store.replace fields = .ok after) :
    (∃ field ∈ after.fields, ¬field.OffersOptions) ↔ ∃ field ∈ fields, ¬field.OffersOptions := by
  constructor
  · rintro ⟨field, member, lacks⟩
    obtain ⟨origin, given, stems⟩ := lackingFrom_replace done field member lacks
    exact ⟨origin, given, mt stems.offersOptions_iff.mpr lacks⟩
  · rintro ⟨field, given, lacks⟩
    obtain ⟨sorted, permuted, -, rfl⟩ := replace_eq_ok done
    obtain ⟨position, member⟩ := exists_mem_renumber (permuted.mem_iff.mpr given)
    refine ⟨field.withOrder position, member, ?_⟩
    exact mt (field.stemsFrom_withOrder position).offersOptions_iff.mp lacks

/-- After a call, fields that lack options stem from those before it and those that it hands
over. -/
theorem lackingFrom_perform (store : FieldStore) (call : StoreCall) :
    LackingFrom (store.fields ++ call.given) (store.perform call).state.fields := by
  let keeps (after : FieldStore) : Prop := LackingFrom (store.fields ++ call.given) after.fields
  have before : keeps store := .of_subset (List.subset_append_left ..)
  cases call with
  | add type attributes =>
    exact (lackingFrom_add store type attributes).mono (List.subset_append_left ..)
  | update id attributes =>
    refine keeps_ofExcept keeps before fun field after done => ?_
    exact (lackingFrom_update done).mono (List.subset_append_left ..)
  | delete id => exact (lackingFrom_delete store id).mono (List.subset_append_left ..)
  | move source target =>
    refine keeps_changed keeps before fun after done => ?_
    exact (lackingFrom_move done).mono (List.subset_append_left ..)
  | select id =>
    refine keeps_changed keeps before fun after done => ?_
    exact .of_subset (fields_of_select done ▸ List.subset_append_left ..)
  | replace fields =>
    refine keeps_changed keeps before fun after done => ?_
    exact (lackingFrom_replace done).mono (List.subset_append_right ..)

/-- In a run of a store, fields that lack options stem from those that it was built of and those
that calls hand over. -/
theorem lackingFrom_run {ids : IdSource} {fields : List Field} {store : FieldStore}
    (built : ofFields ids fields = .ok store) (calls : List StoreCall) :
    LackingFrom (fields ++ calls.flatMap StoreCall.given) (store.run calls).fields := by
  have start : LackingFrom (fields ++ calls.flatMap StoreCall.given) store.fields :=
    (lackingFrom_replace built).mono (List.subset_append_left ..)
  have given : LackingFrom (fields ++ calls.flatMap StoreCall.given) (calls.flatMap StoreCall.given) :=
    .of_subset (List.subset_append_right ..)
  exact (start.append given).trans (LackingFrom.foldl lackingFrom_perform store calls)

end FieldStore

end FormEngine
