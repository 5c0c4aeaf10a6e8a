import FormEngine.Form.Equality
import FormEngine.Proofs.Document.WellFormed

/-!
# Rearranged trees are equal by amount

Equality by amount does not look at the order of the entries of maps. So a tree without NaN equals
itself and all its rearrangements, and a form whose values are such trees equals the form with its
values rearranged.
-/

namespace FormEngine

namespace Value

variable {nanSame : Bool}

/-- A number that has a point equals itself. -/
theorem sameNumber_self {value : Value} {point : Point} (hasPoint : value.point? = some point) :
    sameUpTo.sameNumber nanSame value value = true := by
  simp [sameUpTo.sameNumber, hasPoint]

/-- Items are compared one by one. -/
theorem sameItems_map {change : Value → Value} {items : List Value}
    (each : ∀ item ∈ items, sameUpTo nanSame (change item) item = true) :
    sameItems nanSame (items.map change) items = true := by
  induction items with
  | nil => simp [sameItems]
  | cons item rest inductionHypothesis =>
    rw [List.map_cons, sameItems, Bool.and_eq_true]
    exact ⟨each item (.head _), inductionHypothesis fun other member => each other (.tail _ member)⟩

/-- Every entry is looked for among the others. -/
theorem allEntriesAmong_eq_all (left right : List (Value × Value)) :
    allEntriesAmong nanSame left right = left.all fun entry => right.any (sameEntry nanSame entry) := by
  induction left with
  | nil => simp [allEntriesAmong]
  | cons entry rest inductionHypothesis =>
    rw [allEntriesAmong, inductionHypothesis, List.all_cons]

/-- A rearranged tree of finite numbers equals the tree. -/
theorem sameUpTo_rearranged {rearrange : Value → Value} (rearranges : IsRearrangement rearrange)
    {value : Value} (tree : value.IsFiniteTree) :
    sameUpTo nanSame (rearrange value) value = true := by
  induction tree with
  | null =>
    rw [rearranges.plain .null trivial]
    simp [sameUpTo]
  | bool value =>
    rw [rearranges.plain (.bool value) trivial, sameUpTo]
    exact sameNumber_self rfl
  | int value =>
    rw [rearranges.plain (.int value) trivial, sameUpTo]
    exact sameNumber_self rfl
  | @float number isFinite =>
    rw [rearranges.plain (.float number) trivial, sameUpTo]
    cases number with
    | finite negative code => exact sameNumber_self rfl
    | _ => cases isFinite
  | str text =>
    rw [rearranges.str]
    simp [sameUpTo]
  | list _ inductionHypothesis =>
    rw [rearranges.collection]
    simp [sameUpTo, sameItems_map inductionHypothesis]
  | @map entries texts _ _ inductionHypothesis =>
    obtain ⟨arranged, same, permuted⟩ := rearranges.map entries
    have among : allEntriesAmong nanSame arranged entries = true := by
      rw [allEntriesAmong_eq_all, List.all_eq_true]
      intro entry member
      rw [permuted.mem_iff, List.mem_map] at member
      obtain ⟨original, inEntries, rfl⟩ := member
      obtain ⟨key, isKey⟩ := texts original inEntries
      rw [List.any_eq_true]
      refine ⟨original, inEntries, ?_⟩
      rw [sameEntry, inductionHypothesis original inEntries, isKey]
      simp [sameUpTo]
    have length : arranged.length = entries.length := by
      rw [permuted.length_eq, List.length_map]
    rw [same]
    simp [sameUpTo, length, among]

end Value

section Rearranged

variable {nanSame : Bool} {rearrange : Value → Value} (rearranges : Value.IsRearrangement rearrange)
include rearranges

/-- A default value equals itself rearranged. -/
theorem Value.IsDefaultFor.sameUpTo_rearranged {type : FieldType} {value : Value}
    (fits : value.IsDefaultFor type) : (rearrange value).sameUpTo nanSame value = true := by
  rcases fits with ⟨tree, -⟩ | ⟨-, day, rfl⟩
  · exact Value.sameUpTo_rearranged rearranges tree
  · rw [rearranges.plain (.date day) trivial]
    simp [Value.sameUpTo]

/-- A word equals itself if what stands in its place is a tree. -/
theorem Recognised.same_mapRaw {κ : Type} [BEq κ] [ReflBEq κ] {word : Recognised κ}
    (isTree : word.IsTreeWord) : (word.mapRaw rearrange).same nanSame word = true := by
  cases word with
  | known word => exact BEq.rfl
  | unknown raw => exact Value.sameUpTo_rearranged rearranges isTree

/-- A well-formed validation rule equals itself rearranged. -/
theorem ValidationRule.WellFormed.same_mapValues {rule : ValidationRule}
    (wellFormed : rule.WellFormed) (isTree : rule.kind.IsTreeWord) :
    (rule.mapValues rearrange).same nanSame rule = true := by
  simp [ValidationRule.same, ValidationRule.mapValues, Recognised.same_mapRaw rearranges isTree,
    Value.sameUpTo_rearranged rearranges wellFormed.parameter,
    Value.sameUpTo_rearranged rearranges wellFormed.message.isTree]

/-- A well-formed conditional rule equals itself rearranged. -/
theorem ConditionalRule.WellFormed.same_mapValues {rule : ConditionalRule}
    (wellFormed : rule.WellFormed) (isTree : rule.operator.IsTreeWord) :
    (rule.mapValues rearrange).same nanSame rule = true := by
  simp [ConditionalRule.same, ConditionalRule.mapValues, Recognised.same_mapRaw rearranges isTree,
    Value.sameUpTo_rearranged rearranges wellFormed.comparison,
    Value.sameUpTo_rearranged rearranges wellFormed.trigger.isTree]

omit rearranges in
/-- Lists whose items are equal are equal. -/
theorem sameList_map {α : Type} {sameItem : α → α → Bool} {change : α → α} {items : List α}
    (each : ∀ item ∈ items, sameItem (change item) item = true) :
    sameList sameItem (items.map change) items = true := by
  induction items with
  | nil => rfl
  | cons item rest inductionHypothesis =>
    rw [List.map_cons, sameList, Bool.and_eq_true]
    exact ⟨each item (.head _), inductionHypothesis fun other member => each other (.tail _ member)⟩

/-- A well-formed field equals itself rearranged. -/
theorem Field.WellFormed.same_mapValues {field : Field} (wellFormed : field.WellFormed)
    (order : ∃ position, field.order = .int position)
    (kinds : ∀ rule, .proper rule ∈ field.validationRules → rule.kind.IsTreeWord)
    (operators : ∀ rule, .proper rule ∈ field.conditionalRules → rule.operator.IsTreeWord) :
    (field.mapValues rearrange).same nanSame field = true := by
  obtain ⟨rules, areRules, rulesFit⟩ := wellFormed.validationRules
  obtain ⟨conditions, areConditions, conditionsFit⟩ := wellFormed.conditionalRules
  obtain ⟨flag, required⟩ := wellFormed.required
  obtain ⟨position, placed⟩ := order
  have sameRules : sameList (Entry.same (ValidationRule.same nanSame) nanSame)
      (field.validationRules.map (.mapValues (.mapValues rearrange) rearrange))
      field.validationRules = true := by
    apply sameList_map
    intro entry member
    have inRules := member
    rw [areRules] at inRules
    obtain ⟨rule, isRule, rfl⟩ := List.mem_map.mp inRules
    exact (rulesFit rule isRule).same_mapValues rearranges (kinds rule member)
  have sameConditions : sameList (Entry.same (ConditionalRule.same nanSame) nanSame)
      (field.conditionalRules.map (.mapValues (.mapValues rearrange) rearrange))
      field.conditionalRules = true := by
    apply sameList_map
    intro entry member
    have inConditions := member
    rw [areConditions] at inConditions
    obtain ⟨rule, isRule, rfl⟩ := List.mem_map.mp inConditions
    exact (conditionsFit rule isRule).same_mapValues rearranges (operators rule member)
  simp [Field.same, Field.mapValues, sameRules, sameConditions, required, placed,
    Value.sameUpTo_rearranged rearranges wellFormed.label.isTree,
    Value.sameUpTo_rearranged rearranges wellFormed.placeholder,
    Value.sameUpTo_rearranged rearranges wellFormed.description,
    Value.sameUpTo_rearranged rearranges (.bool flag),
    Value.sameUpTo_rearranged rearranges (.int position),
    wellFormed.defaultValue.sameUpTo_rearranged rearranges]

omit rearranges in
/-- A time equals itself. -/
theorem sameTime_self (time : Option DateTime) : sameTime time time = true := by
  cases time with
  | none => rfl
  | some moment =>
    rw [sameTime, DateTime.same]
    cases moment.offset <;> exact BEq.rfl

/-- A form that is well formed and has trees for its other parts equals itself rearranged. -/
theorem Form.WellFormed.same_mapValues {form : Form} (wellFormed : form.WellFormed)
    (trees : form.HasTreeParts) : (form.mapValues rearrange).same nanSame form = true := by
  have sameFields : sameList (Field.same nanSame) (form.fields.map (.mapValues rearrange))
      form.fields = true :=
    sameList_map fun field member => (wellFormed.fields field member).same_mapValues rearranges
      (wellFormed.placed.order_of_mem member) (trees.kinds field member)
      (trees.operators field member)
  simp [Form.same, Form.mapValues, Settings.same, Settings.mapValues, sameFields, sameTime_self,
    Value.sameUpTo_rearranged rearranges wellFormed.title.isTree,
    Value.sameUpTo_rearranged rearranges wellFormed.description.isTree,
    Value.sameUpTo_rearranged rearranges wellFormed.confirmation.isTree,
    Value.sameUpTo_rearranged rearranges trees.redirect]

end Rearranged

end FormEngine
