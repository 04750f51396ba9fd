import FixedExtract.Proofs.Definition.Attribute
/-!
# Fields that are left out

Fields are left out of a mapping under both names and among its settings. Then lifting the settings does not bring
them back, and whatever else was there, given or lifted, is there still: it makes no difference whether fields are
left out before settings are lifted or after.
-/

namespace FixedExtract

/-! ## Entries -/

namespace Entries

/-- Values that depend on their keys and on what was there before are found under the same keys. -/
theorem get?_map_values (key : Text) (f : Value → Value → Value) (entries : Entries) :
    get? key (entries.map fun entry => (entry.1, f entry.1 entry.2)) =
      (get? key entries).map (f (.text key)) := by
  induction entries with
  | nil => rfl
  | cons entry rest ih =>
    obtain ⟨k, v⟩ := entry
    rw [List.map_cons, get?, get?, ih]
    split
    · rename_i same
      rw [Value.isText_iff.1 same]
      rfl
    · rfl

theorem mem_of_get? {key : Text} {v : Value} {entries : Entries} (h : get? key entries = some v) :
    (.text key, v) ∈ entries := by
  induction entries with
  | nil => cases h
  | cons entry rest ih =>
    obtain ⟨k, first⟩ := entry
    rw [get?] at h
    split at h
    · rename_i same
      cases h
      rw [Value.isText_iff.1 same]
      exact List.mem_cons_self
    · exact List.mem_cons_of_mem _ (ih h)

theorem get?_put_self (key : Text) (v : Value) (entries : Entries) : get? key (put key v entries) = some v := by
  induction entries with
  | nil => simp [put, get?, Value.isText]
  | cons entry rest ih =>
    obtain ⟨k, old⟩ := entry
    rw [put]
    split
    · rename_i same
      rw [get?, if_pos same]
    · rename_i other
      rw [get?, if_neg other, ih]

theorem get?_put_of_ne {key other : Text} (different : key ≠ other) (v : Value) (entries : Entries) :
    get? key (put other v entries) = get? key entries := by
  induction entries with
  | nil =>
    have unequal : (other == key) = false := beq_eq_false_iff_ne.2 different.symm
    simp [put, get?, Value.isText, unequal]
  | cons entry rest ih =>
    obtain ⟨k, old⟩ := entry
    rw [put]
    split
    · rename_i same
      have unequal : ¬k.isText key = true := by
        rw [Value.isText_iff.1 same, Value.isText_iff]
        exact fun h => different (Value.text.inj h).symm
      rw [get?, if_neg unequal, get?, if_neg unequal]
    · rw [get?, get?, ih]

end Entries

namespace Definition

/-- The key is a name of one of the fields. -/
def Named (dropped : List FieldName) (key : Text) : Prop := ∃ field ∈ dropped, field.Bears key

theorem namesField_iff {fields : List FieldName} {key : Text} :
    namesField fields (.text key) = true ↔ Named fields key := by
  simp [namesField, Value.isText, Named, FieldName.Bears]

/-- The entries of one map are those of another without some fields; the map of settings may differ otherwise. -/
structure Drops (dropped : List FieldName) (before after : Entries) : Prop where
  gone : ∀ key, Named dropped key → after.get? key = none
  kept : ∀ key, ¬Named dropped key → ¬MappingDraft.transformationConfigField.Bears key →
    after.get? key = before.get? key

section
variable {dropped : List FieldName} {before after : Entries} {field : FieldName}

theorem Drops.find?_of_mem (drops : Drops dropped before after) (h : field ∈ dropped) :
    field.find? after = none :=
  FieldName.find?_eq_none_of fun key bears => drops.gone key ⟨field, h, bears⟩

theorem Drops.find?_of_apart (drops : Drops dropped before after) (other : ∀ f ∈ dropped, field.Apart f)
    (notSettings : field.Apart MappingDraft.transformationConfigField) :
    field.find? after = field.find? before := by
  refine FieldName.find?_congr fun key bears => drops.kept key ?_ (notSettings.not_bears bears)
  rintro ⟨f, hf, bears'⟩
  exact (other f hf).not_bears bears bears'

/-! ## Leaving out fields -/

/-- The settings without those of some fields. -/
def keptSettings (dropped : List FieldName) (settings : Entries) : Entries :=
  settings.filter fun entry =>
    !dropped.any fun field => MappingDraft.liftedFields.elem field && entry.1.isText field.camel

theorem get?_withoutFields (dropped : List FieldName) (entries : Entries) (key : Text) :
    (withoutFields dropped entries).get? key =
      if namesField dropped (.text key) then none
      else (entries.get? key).map fun v =>
        if namesField [MappingDraft.transformationConfigField] (.text key) then settingsWithout dropped v
        else v := by
  -- Entries are left out first; the values of the others may change, but not their keys.
  have renewed : withoutFields dropped entries =
      (entries.filter fun entry => !namesField dropped entry.1).map fun entry =>
        (entry.1, if namesField [MappingDraft.transformationConfigField] entry.1 then
          settingsWithout dropped entry.2 else entry.2) := by
    refine List.map_congr_left fun entry _ => ?_
    split <;> rfl
  rw [renewed, Entries.get?_map_values key (fun k v =>
    if namesField [MappingDraft.transformationConfigField] k then settingsWithout dropped v else v),
    Entries.get?_filter key fun k => !namesField dropped k]
  cases namesField dropped (.text key) <;> rfl

theorem drops_withoutFields (dropped : List FieldName) (entries : Entries) :
    Drops dropped entries (withoutFields dropped entries) where
  gone := by
    intro key named
    rw [get?_withoutFields, if_pos (namesField_iff.2 named)]
  kept := by
    intro key unnamed notSettings
    have other : ¬namesField [MappingDraft.transformationConfigField] (.text key) = true := by
      rw [namesField_iff]
      rintro ⟨f, hf, bears⟩
      rw [List.mem_singleton.1 hf] at bears
      exact notSettings bears
    rw [get?_withoutFields, if_neg (mt namesField_iff.1 unnamed)]
    simp [other]

theorem opened_settingsWithout (dropped : List FieldName) (v : Value) :
    (settingsWithout dropped v).opened =
      match v.opened with
      | .map settings => .map (keptSettings dropped settings)
      | other => other := by
  unfold settingsWithout
  cases opened : v.opened with
  | map settings => rfl
  | _ => exact opened

/-- Settings that are kept are found as before. -/
theorem get?_keptSettings (dropped : List FieldName) (settings : Entries) (key : Text) :
    (keptSettings dropped settings).get? key =
      if dropped.any fun f => MappingDraft.liftedFields.elem f && key == f.camel then none
      else settings.get? key := by
  rw [keptSettings, Entries.get?_filter key fun k =>
    !dropped.any fun f => MappingDraft.liftedFields.elem f && k.isText f.camel]
  have flipped : ∀ b : Bool,
      (if !b then settings.get? key else none) = if b then none else settings.get? key := by
    intro b
    cases b <;> rfl
  exact flipped _

end

/-! ## Lifting what is left -/

namespace MappingDraft

variable {dropped : List FieldName} {settings kept before after entries others : Entries} {field : FieldName}

/-- No two fields of a mapping have a name in common. -/
theorem apart_of_ne {a b : FieldName} (ha : a ∈ fields) (hb : b ∈ fields) (different : a ≠ b) : a.Apart b := by
  have apart : ∀ a ∈ fields, ∀ b ∈ fields, a ≠ b → a.Apart b := by decide +kernel
  exact apart a ha b hb different

theorem mem_fields_of_lifted (lifted : field ∈ liftedFields) :
    field ∈ fields ∧ field ≠ transformationConfigField := by
  revert field
  decide +kernel

/-- Lifting a setting changes nothing but the snake-case name of its field. -/
theorem get?_liftOne_of_ne {key : Text} (different : key ≠ field.snake) :
    (liftOne settings entries field).get? key = entries.get? key := by
  unfold liftOne
  split
  · rfl
  · split
    · exact Entries.get?_put_of_ne different _ _
    · rfl

/-- What lifting a setting leaves under the snake-case name depends only on the setting and on the field. -/
theorem get?_liftOne_congr (setting : settings.get? field.camel = kept.get? field.camel)
    (camel : entries.get? field.camel = others.get? field.camel)
    (snake : entries.get? field.snake = others.get? field.snake) :
    (liftOne settings entries field).get? field.snake = (liftOne kept others field).get? field.snake := by
  unfold liftOne Entries.getD
  rw [setting, camel, snake]
  split
  · exact snake
  · split
    · rw [Entries.get?_put_self, Entries.get?_put_self]
    · exact snake

section
variable (known : ∀ f ∈ dropped, f ∈ fields)
include known

/-- A field that is not left out shares no name with those that are. -/
theorem not_named_of_bears (hf : field ∈ fields) (notDropped : field ∉ dropped) {key : Text}
    (bears : field.Bears key) : ¬Named dropped key := by
  rintro ⟨f, hd, bears'⟩
  have different : field ≠ f := fun same => notDropped (same ▸ hd)
  exact (apart_of_ne hf (known f hd) different).not_bears bears bears'

theorem get?_keptSettings_of_lifted (lifted : field ∈ liftedFields) :
    (keptSettings dropped settings).get? field.camel =
      if field ∈ dropped then none else settings.get? field.camel := by
  rw [get?_keptSettings]
  have leftOut_iff : (dropped.any fun f => liftedFields.elem f && field.camel == f.camel) = true ↔
      field ∈ dropped := by
    rw [List.any_eq_true]
    simp only [Bool.and_eq_true, List.elem_iff, beq_iff_eq]
    constructor
    · rintro ⟨f, hd, -, same⟩
      by_contra notDropped
      exact not_named_of_bears known (mem_fields_of_lifted lifted).1 notDropped (.inl rfl) ⟨f, hd, .inl same⟩
    · intro hd
      exact ⟨field, hd, lifted, rfl⟩
  simp only [leftOut_iff]

/-- Lifting a setting on both sides, unless it is left out, keeps to what is left out. -/
theorem drops_liftOne (drops : Drops dropped before after) (lifted : field ∈ liftedFields) :
    Drops dropped (liftOne settings before field) (liftOne (keptSettings dropped settings) after field) := by
  obtain ⟨hf, notSettings⟩ := mem_fields_of_lifted lifted
  have setting : (keptSettings dropped settings).get? field.camel = _ := get?_keptSettings_of_lifted known lifted
  by_cases hd : field ∈ dropped
  · -- The setting of a field that is left out is gone, and on the other side it goes to a name that is left out.
    rw [if_pos hd] at setting
    have unlifted : liftOne (keptSettings dropped settings) after field = after := by
      rw [liftOne, setting]
    rw [unlifted]
    refine ⟨drops.gone, ?_⟩
    intro key unnamed other
    rw [get?_liftOne_of_ne fun same => unnamed ⟨field, hd, .inr same⟩]
    exact drops.kept key unnamed other
  · -- Any other setting is lifted on both sides alike, for they agree on the names of its field.
    rw [if_neg hd] at setting
    have unnamed : ∀ key, field.Bears key → ¬Named dropped key := fun _ => not_named_of_bears known hf hd
    have apart := apart_of_ne hf (by decide +kernel) notSettings
    have agree : ∀ key, field.Bears key → after.get? key = before.get? key :=
      fun key bears => drops.kept key (unnamed key bears) (apart.not_bears bears)
    constructor
    · intro key named
      rw [get?_liftOne_of_ne fun same => unnamed key (.inr same) named]
      exact drops.gone key named
    · intro key unnamed' other
      by_cases same : key = field.snake
      · subst same
        exact get?_liftOne_congr setting (agree _ (.inl rfl)) (agree _ (.inr rfl))
      · rw [get?_liftOne_of_ne same, get?_liftOne_of_ne same]
        exact drops.kept key unnamed' other

theorem drops_foldl_liftOne {list : List FieldName} (lifted : ∀ f ∈ list, f ∈ liftedFields)
    (drops : Drops dropped before after) :
    Drops dropped (list.foldl (liftOne settings) before)
      (list.foldl (liftOne (keptSettings dropped settings)) after) := by
  induction list generalizing before after with
  | nil => exact drops
  | cons f rest ih =>
    obtain ⟨first, others⟩ := List.forall_mem_cons.1 lifted
    exact ih others (drops_liftOne known drops first)

/-- The map of settings is found where it was, without what is left out of it. -/
theorem find?_settings_withoutFields (kept : transformationConfigField ∉ dropped) :
    transformationConfigField.find? (withoutFields dropped entries) =
      (transformationConfigField.find? entries).map fun found => (found.1, settingsWithout dropped found.2) := by
  have renewed : ∀ key, transformationConfigField.Bears key →
      (withoutFields dropped entries).get? key = (entries.get? key).map (settingsWithout dropped) := by
    intro key bears
    have unnamed := not_named_of_bears known (by decide +kernel) kept bears
    have own : Named [transformationConfigField] key := ⟨_, List.mem_singleton_self _, bears⟩
    rw [get?_withoutFields, if_neg (mt namesField_iff.1 unnamed)]
    simp only [namesField_iff.2 own, if_true]
  unfold FieldName.find?
  rw [renewed _ (.inl rfl), renewed _ (.inr rfl)]
  cases entries.get? transformationConfigField.camel with
  | some v => rfl
  | none => cases entries.get? transformationConfigField.snake <;> rfl

theorem settings?_withoutFields (kept : transformationConfigField ∉ dropped) :
    settings? (withoutFields dropped entries) = (settings? entries).map (keptSettings dropped) := by
  unfold settings?
  rw [find?_settings_withoutFields known kept]
  cases transformationConfigField.find? entries with
  | none => rfl
  | some found =>
    simp only [Option.map_some, opened_settingsWithout]
    cases found.2.opened <;> rfl

/-- Fields that are left out before lifting are left out of the lifted entries, unless settings are lost with
them. -/
theorem drops_lift (noSettings : transformationConfigField ∈ dropped → settings? entries = none) :
    Drops dropped (lift entries) (lift (withoutFields dropped entries)) := by
  have drops := drops_withoutFields dropped entries
  by_cases lost : transformationConfigField ∈ dropped
  · -- When the map of settings is left out itself, nothing is lifted on either side.
    have noneLeft : settings? (withoutFields dropped entries) = none := by
      rw [settings?, drops.find?_of_mem lost]
    rw [lift, lift, noSettings lost, noneLeft]
    exact drops
  · rw [lift, lift, settings?_withoutFields known lost]
    cases settings? entries with
    | none => exact drops
    | some settings => exact drops_foldl_liftOne known (fun _ => id) drops

end

/-- Lifting settings changes nothing but the snake-case names of their fields. -/
theorem get?_foldl_liftOne {key : Text} {list : List FieldName} (different : ∀ f ∈ list, key ≠ f.snake) :
    (list.foldl (liftOne settings) entries).get? key = entries.get? key := by
  induction list generalizing entries with
  | nil => rfl
  | cons f rest ih =>
    obtain ⟨first, others⟩ := List.forall_mem_cons.1 different
    rw [List.foldl_cons, ih others, get?_liftOne_of_ne first]

/-- Lifting leaves the map of settings where it is. -/
theorem find?_settings_lift (entries : Entries) :
    transformationConfigField.find? (lift entries) = transformationConfigField.find? entries := by
  refine FieldName.find?_congr fun key bears => ?_
  unfold lift
  split
  · refine get?_foldl_liftOne fun f lifted same => ?_
    obtain ⟨hf, notSettings⟩ := mem_fields_of_lifted lifted
    have apart := apart_of_ne hf (by decide +kernel) notSettings
    exact apart.not_bears (.inr same) bears
  · rfl

/-- Settings are read when they are a map whose keys are texts. -/
theorem readSettings_eq_value_iff {v : Value} :
    readSettings v = .value () ↔
      ∃ settings, v.opened = .map settings ∧ ∀ entry ∈ settings, ∃ t, readText entry.1 = .value t := by
  unfold readSettings
  cases opened : v.opened with
  | map settings =>
    have items_iff : ∀ texts, Checked.items (fun entry : Value × Value => readText entry.1) settings =
        .value texts ↔ List.Forall₂ (fun entry t => readText entry.1 = .value t) settings texts :=
      fun _ => Checked.itemsFrom_eq_value_iff 0
    refine Checked.map_eq_value_iff.trans ?_
    simp only [items_iff, and_true, Value.map.injEq, exists_eq_left']
    constructor
    · rintro ⟨texts, beside⟩ entry member
      obtain ⟨t, -, read⟩ := exists_of_forall₂_left beside entry member
      exact ⟨t, read⟩
    · exact exists_forall₂
  | _ => exact iff_of_false nofun (by rintro ⟨_, made, -⟩; cases made)

theorem readSettings_settingsWithout {v : Value} (read : readSettings v = .value ()) :
    readSettings (settingsWithout dropped v) = .value () := by
  obtain ⟨settings, opened, keys⟩ := readSettings_eq_value_iff.1 read
  refine readSettings_eq_value_iff.2 ⟨keptSettings dropped settings, ?_, ?_⟩
  · rw [opened_settingsWithout, opened]
  · exact fun entry member => keys entry (List.mem_filter.1 member).1

end MappingDraft
end Definition
end FixedExtract
