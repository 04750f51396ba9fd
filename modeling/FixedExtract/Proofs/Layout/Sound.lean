import FixedExtract.Definition.Shape
import FixedExtract.Proofs.Layout.Line
import FixedExtract.Proofs.Layout.Word
/-!
# Sound layouts

The types of a layout leave room for expressions that do not parse, for keys and positions that are used
twice, and for lines of any width. A sound layout has none of these. No expression fault can come up
while its lines are rendered: the proofs follow the choice of a branch from a single expression up to the
whole field.
-/

namespace FixedExtract.Layout

/-- The expression parses when the white space around it is dropped. -/
def Parses (expression : Text) : Prop := ∃ node, Expression.parse (Text.strip expression) = .ok node

/-- The conditions of a transformation; only a conditional one has any. -/
def Transformation.conditions : Transformation → List Condition
  | .conditional conditions _ => conditions
  | _ => []

/-- A condition whose expressions all parse. -/
def Condition.Sound (condition : Condition) : Prop :=
  ∀ branch ∈ condition.branches, Parses branch.1

structure Mapping.Sound (m : Mapping) : Prop where
  name : Text.isBlank m.name = false
  dataType : m.dataType ≠ []
  conditions : ∀ condition ∈ m.transformation.conditions, condition.Sound

/-- A layout that a definition can be made of again, with lines of at most `maximum` characters. -/
structure Config.Sound (maximum : Int) (config : Config) : Prop where
  sourceSystem : Text.isBlank config.sourceSystem = false
  jobName : Text.isBlank config.jobName = false
  nonEmpty : config.mappings ≠ []
  mappings : ∀ m ∈ config.mappings, m.Sound
  keys : (config.mappings.map fun m => Definition.fieldKey m.name).Nodup
  positions : (config.mappings.map Mapping.position).Nodup
  width : (config.recordLength : Int) ≤ maximum

/-! ## Expressions -/

theorem parse_nil : Expression.parse [] = .error ⟨[], 0, .unmet .expression none⟩ := by
  have noTokens : Expression.tokens [] = .ok [] := by
    rw [Expression.tokens, Expression.scan]
  rw [Expression.parse, noTokens]
  rfl

/-- What parses is not blank, since nothing is left of blank text. -/
theorem Parses.isBlank_eq_false {expression : Text} (h : Parses expression) :
    Text.isBlank expression = false := by
  rw [Bool.eq_false_iff]
  intro blank
  obtain ⟨node, hn⟩ := h
  rw [Text.strip_eq_nil_of_isBlank blank, parse_nil] at hn
  cases hn

/-- What parses can be evaluated on every record. -/
theorem Parses.evaluate {expression : Text} (h : Parses expression) (record : Record) :
    ∃ held, evaluate record expression = .ok held := by
  obtain ⟨node, hn⟩ := h
  refine ⟨Expression.Node.holds record node, ?_⟩
  rw [Layout.evaluate, hn]
  rfl

/-! ## Branches -/

section
variable (record : Record)

theorem firstHolding_ok {branches : List (Text × Text)} (parses : ∀ branch ∈ branches, Parses branch.1)
    (index : Nat) : ∃ chosen, (firstHolding record index branches).outcome = .ok chosen := by
  induction branches generalizing index with
  | nil => exact ⟨none, rfl⟩
  | cons branch rest ih =>
    obtain ⟨expression, value⟩ := branch
    obtain ⟨held, hh⟩ := (parses (expression, value) List.mem_cons_self).evaluate record
    obtain ⟨chosen, hc⟩ := ih (fun b hb => parses b (List.mem_cons_of_mem _ hb)) (index + 1)
    cases held with
    | true =>
      refine ⟨some (index, value), ?_⟩
      rw [firstHolding, hh]
    | false =>
      refine ⟨chosen, ?_⟩
      rw [firstHolding, hh]
      exact hc

theorem chooseIn_ok {condition : Condition} (sound : condition.Sound) (index : Nat) :
    ∃ choice, (chooseIn record index condition).outcome = .ok choice := by
  obtain ⟨chosen, hc⟩ := firstHolding_ok record sound 0
  rw [chooseIn]
  simp only [hc]
  exact ⟨_, rfl⟩

theorem chooseFrom_ok {conditions : List Condition}
    (sound : ∀ condition ∈ conditions, condition.Sound) (index : Nat) :
    ∃ choice, (chooseFrom record index conditions).outcome = .ok choice := by
  induction conditions generalizing index with
  | nil => exact ⟨none, rfl⟩
  | cons condition rest ih =>
    obtain ⟨choice, hc⟩ :=
      chooseIn_ok record (sound condition List.mem_cons_self) index
    obtain ⟨later, hl⟩ := ih (fun c hc => sound c (List.mem_cons_of_mem _ hc)) (index + 1)
    rw [chooseFrom]
    cases choice with
    | none =>
      refine ⟨later, ?_⟩
      simp only [hc]
      exact hl
    | some choice =>
      refine ⟨some choice, ?_⟩
      simp only [hc]

theorem choose_ok {conditions : List Condition}
    (sound : ∀ condition ∈ conditions, condition.Sound) (defaultValue : Option Text) :
    ∃ choice, choose conditions record defaultValue = .ok choice := by
  obtain ⟨choice, hc⟩ := chooseFrom_ok record sound 0
  refine ⟨choice.getD (fallback defaultValue), ?_⟩
  rw [choose, chooseTraced]
  simp only [hc]
  rfl

end

/-! ## Fields and lines -/

/-- No expression of a sound mapping is malformed, whatever the record. -/
theorem Mapping.Sound.render_ne_expression {m : Mapping} (sound : m.Sound) (record : Record)
    (fault : Expression.Fault) : render m record ≠ .error (.expression fault) := by
  intro h
  unfold render at h
  cases ht : m.transformation with
  | source field => simp [ht] at h
  | constant value => simp [ht] at h
  | composite sources delimiter operation nonEmpty =>
    simp only [ht] at h
    cases hc : combine sources delimiter operation record m.defaultValue with
    | ok text => simp [hc] at h
    | error stop => simp [hc] at h
  | conditional conditions nonEmpty =>
    have conditionsSound := sound.conditions
    rw [ht] at conditionsSound
    obtain ⟨choice, hc⟩ : ∃ choice, choose conditions record m.defaultValue = .ok choice :=
      choose_ok record conditionsSound m.defaultValue
    simp [ht, hc] at h

/-- Fitting a value leaves no warning about conditions. -/
theorem invalidCondition_notMem_fitField {m : Mapping} {record : Record} {raw name : Text}
    {fault : Expression.Fault} :
    .invalidCondition name fault ∉ (fitField m record raw []).warnings := by
  intro h
  simp only [fitField, List.nil_append, List.mem_append, Option.mem_toList] at h
  rcases h with missing | truncated
  · unfold sourceWarning? at missing
    split at missing
    · split at missing <;> simp at missing
    · simp at missing
  · split at truncated <;> simp at truncated

/-- No field of a sound layout degrades on account of a condition. -/
theorem Config.Sound.invalidCondition_notMem_warnings {maximum : Int} {config : Config}
    (sound : config.Sound maximum) {record : Record} {number : Nat} {line : RenderedLine}
    (h : renderLine config record number = .ok line) (name : Text) (fault : Expression.Fault) :
    .invalidCondition name fault ∉ line.warnings := by
  obtain ⟨-, fields⟩ := renderLine_eq_ok_iff.1 h
  rw [RenderedLine.warnings, List.mem_flatMap]
  rintro ⟨field, hf, warning⟩
  obtain ⟨m, hm, rendered⟩ := exists_of_forall₂_right fields field hf
  obtain ⟨raw, warnings, derived, -, rfl⟩ := renderField_eq_ok_iff.1 rendered
  -- The warning is left when a value is derived or when it is fitted; neither is possible.
  have mappingSound := sound.mappings m (mem_ordered_iff.1 hm)
  unfold derived? at derived
  cases hr : render m record with
  | ok text =>
    simp only [hr, Option.some.injEq, Prod.mk.injEq] at derived
    obtain ⟨rfl, rfl⟩ := derived
    exact invalidCondition_notMem_fitField warning
  | error reason =>
    cases reason with
    | expression reason => exact mappingSound.render_ne_expression record reason hr
    | overflow => simp [hr] at derived

end FixedExtract.Layout
