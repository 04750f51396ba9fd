import FixedExtract.Proofs.Definition.Dropping
/-!
# Settings and what lifting makes of them

A setting stands on the mapping itself, under either name, or in the map of settings; null counts as not given
wherever it stands. What is given first, in this order, is what the attribute is read from. One null does count:
settings are lifted under the snake-case name, and a null under the camel-case name stands in front of it, so that
the attribute is absent whatever else is given.
-/

namespace FixedExtract

/-- The value under a key; null counts as none. -/
def Entries.given? (key : Text) (entries : Entries) : Option Value :=
  (entries.get? key).filter fun v => !v.isNull

namespace Definition

/-! ## Values that are given -/

/-- Reads the attribute from the value that is given for it, if one is. -/
def Attribute.readGiven {δ : Type} (a : Attribute δ) : Option Value → Checked a.type
  | some v => a.reader v
  | none => .value a.absent

/-- The value that a field is found with. -/
def FieldName.value? (field : FieldName) (entries : Entries) : Option Value :=
  (field.find? entries).map Prod.snd

theorem FieldName.value?_eq (field : FieldName) (entries : Entries) :
    field.value? entries = (entries.get? field.camel).or (entries.get? field.snake) := by
  unfold value? find?
  cases entries.get? field.camel with
  | some v => rfl
  | none => cases entries.get? field.snake <;> rfl

theorem Attribute.read_eq_value_iff {δ : Type} {a : Attribute δ} {entries : Entries} {x : a.type} :
    a.read entries = .value x ↔ a.readGiven (a.field.value? entries) = .value x := by
  unfold Attribute.read FieldName.read FieldName.value?
  cases a.field.find? entries with
  | none => exact Iff.rfl
  | some found => exact Checked.under_eq_value_iff

/-- Where null is read like an absent field, it makes no difference whether null counts as given. -/
theorem Attribute.readGiven_filter {δ : Type} {a : Attribute δ} (null : a.reader .null = .value a.absent)
    (given : Option Value) : a.readGiven (given.filter fun v => !v.isNull) = a.readGiven given := by
  cases given with
  | none => rfl
  | some v =>
    cases v with
    | null => exact null.symm
    | _ => rfl

namespace MappingDraft

variable {settings entries : Entries} {field : FieldName}

/-! ## What a mapping gives -/

/-- What a mapping gives for a field: itself, under the camel-case name or else the other, or else in its map of
settings. -/
def configured? (field : FieldName) (entries : Entries) : Option Value :=
  ((entries.given? field.camel).or (entries.given? field.snake)).or
    ((settings? entries).bind fun settings => settings.given? field.camel)

/-- A null under the camel-case name hides the other name. -/
def Hidden (field : FieldName) (entries : Entries) : Prop :=
  field.camel ≠ field.snake ∧ entries.get? field.camel = some .null

/-! ## What lifting leaves -/

/-- Under the names of a field, lifting all settings leaves what lifting its own leaves. -/
theorem get?_foldl_liftOne_of_mem {key : Text} (bears : field.Bears key) {list : List FieldName}
    (lifted : ∀ f ∈ list, f ∈ liftedFields) (distinct : list.Nodup) (member : field ∈ list) :
    (list.foldl (liftOne settings) entries).get? key = (liftOne settings entries field).get? key := by
  obtain ⟨before, after, rfl⟩ := List.append_of_mem member
  -- The fields in front of it and behind it are others, and have other names.
  have apart : ∀ f ∈ before ++ field :: after, f ≠ field → ∀ name, field.Bears name → name ≠ f.snake := by
    rintro f hf other name own rfl
    have known := (mem_fields_of_lifted (lifted f hf)).1
    have ownKnown := (mem_fields_of_lifted (lifted field member)).1
    exact (apart_of_ne ownKnown known other.symm).not_bears own (.inr rfl)
  obtain ⟨-, distinctBehind, notBefore⟩ := List.nodup_append.1 distinct
  have inFront : ∀ name, field.Bears name →
      (before.foldl (liftOne settings) entries).get? name = entries.get? name := by
    intro name own
    refine get?_foldl_liftOne fun f hf => ?_
    exact apart f (List.mem_append_left _ hf) (notBefore f hf field List.mem_cons_self) name own
  have behind : ∀ f ∈ after, key ≠ f.snake := by
    intro f hf
    have other : f ≠ field := fun same => (List.nodup_cons.1 distinctBehind).1 (same ▸ hf)
    exact apart f (List.mem_append_right _ (List.mem_cons_of_mem _ hf)) other key bears
  rw [List.foldl_append, List.foldl_cons, get?_foldl_liftOne behind]
  by_cases own : key = field.snake
  · subst own
    exact get?_liftOne_congr rfl (inFront _ (.inl rfl)) (inFront _ (.inr rfl))
  · rw [get?_liftOne_of_ne own, get?_liftOne_of_ne own, inFront key bears]

/-- A field that is lifted is found where it is when no setting but its own is lifted. -/
theorem value?_lift (lifted : field ∈ liftedFields) (given : settings? entries = some settings) :
    field.value? (lift entries) = field.value? (liftOne settings entries field) := by
  have left : lift entries = liftedFields.foldl (liftOne settings) entries := by rw [lift, given]
  have alike : ∀ key, field.Bears key → (lift entries).get? key = (liftOne settings entries field).get? key := by
    intro key bears
    rw [left]
    exact get?_foldl_liftOne_of_mem bears (fun _ => id) (by decide +kernel) lifted
  rw [FieldName.value?, FieldName.find?_congr alike, FieldName.value?]

/-- A setting takes the place of what is under the snake-case name when both names have null or nothing. -/
theorem get?_liftOne_snake :
    (liftOne settings entries field).get? field.snake =
      if (entries.given? field.camel).or (entries.given? field.snake) = none then
        (settings.get? field.camel).or (entries.get? field.snake)
      else entries.get? field.snake := by
  have none_iff : ∀ key, entries.given? key = none ↔ (entries.getD key).isNull = true := by
    intro key
    unfold Entries.given? Entries.getD
    cases entries.get? key with
    | none => simp [Value.isNull]
    | some v => simp [Option.filter]
  unfold liftOne
  simp only [Option.or_eq_none_iff, none_iff, Bool.and_eq_true]
  cases settings.get? field.camel with
  | none => simp
  | some v =>
    dsimp only
    split
    · rw [Entries.get?_put_self, Option.some_or]
    · rfl

theorem given?_liftOne_snake :
    (liftOne settings entries field).given? field.snake =
      if (entries.given? field.camel).or (entries.given? field.snake) = none then settings.given? field.camel
      else entries.given? field.snake := by
  rw [Entries.given?, get?_liftOne_snake]
  split
  · next unset =>
    have noOther : entries.given? field.snake = none := (Option.or_eq_none_iff.1 unset).2
    unfold Entries.given? at noOther ⊢
    cases settings.get? field.camel with
    | none => exact noOther
    | some v => rfl
  · rfl

/-- Lifting a setting gives the field what the mapping does not give it itself. -/
theorem own_liftOne :
    ((liftOne settings entries field).given? field.camel).or ((liftOne settings entries field).given? field.snake) =
      ((entries.given? field.camel).or (entries.given? field.snake)).or (settings.given? field.camel) := by
  by_cases same : field.camel = field.snake
  · rw [same, Option.or_self, given?_liftOne_snake, same, Option.or_self]
    cases entries.given? field.snake <;> simp
  · have kept : (liftOne settings entries field).given? field.camel = entries.given? field.camel := by
      rw [Entries.given?, get?_liftOne_of_ne same, Entries.given?]
    rw [kept, given?_liftOne_snake]
    cases entries.given? field.camel with
    | some v => rfl
    | none => cases entries.given? field.snake <;> simp

/-! ## What a field is found with -/

theorem hidden_liftOne_iff : Hidden field (liftOne settings entries field) ↔ Hidden field entries := by
  refine and_congr_right fun different => ?_
  rw [get?_liftOne_of_ne different]

/-- Unless it is hidden, a field is found with the first value that is given for it. -/
theorem given_value? (visible : ¬Hidden field entries) :
    (field.value? entries).filter (fun v => !v.isNull) =
      (entries.given? field.camel).or (entries.given? field.snake) := by
  rw [FieldName.value?_eq]
  by_cases same : field.camel = field.snake
  · rw [same, Option.or_self, Option.or_self, Entries.given?]
  · unfold Entries.given?
    cases found : entries.get? field.camel with
    | none => rfl
    | some v =>
      cases v with
      | null => exact absurd ⟨same, found⟩ visible
      | _ => rfl

theorem value?_of_hidden (hidden : Hidden field entries) : field.value? entries = some .null := by
  rw [FieldName.value?_eq, hidden.2, Option.some_or]

/-- In the lifted entries, a field is found with what is given for it, on the mapping or among the settings. -/
theorem given_value?_lift (lifted : field ∈ liftedFields) (visible : ¬Hidden field entries) :
    (field.value? (lift entries)).filter (fun v => !v.isNull) = configured? field entries := by
  cases given : settings? entries with
  | none =>
    have unlifted : lift entries = entries := by rw [lift, given]
    rw [unlifted, given_value? visible, configured?, given, Option.bind_none, Option.or_none]
  | some settings =>
    rw [value?_lift lifted given, given_value? (mt hidden_liftOne_iff.1 visible), own_liftOne, configured?, given,
      Option.bind_some]

theorem value?_lift_of_hidden (lifted : field ∈ liftedFields) (hidden : Hidden field entries) :
    field.value? (lift entries) = some .null := by
  cases given : settings? entries with
  | none =>
    have unlifted : lift entries = entries := by rw [lift, given]
    rw [unlifted, value?_of_hidden hidden]
  | some settings => rw [value?_lift lifted given, value?_of_hidden (hidden_liftOne_iff.2 hidden)]

/-! ## What attributes hold -/

/-- Null is not given. -/
theorem isNull_of_configured? {v : Value} (h : configured? field entries = some v) : v.isNull = false := by
  have given : ∀ {key : Text} {entries : Entries}, entries.given? key = some v → v.isNull = false := by
    intro key entries h
    simpa using (Option.filter_eq_some_iff.1 h).2
  rcases Option.or_eq_some_iff.1 h with own | ⟨-, setting⟩
  · rcases Option.or_eq_some_iff.1 own with camel | ⟨-, snake⟩
    · exact given camel
    · exact given snake
  · obtain ⟨_, -, inSettings⟩ := Option.bind_eq_some_iff.1 setting
    exact given inSettings

theorem exists_attribute (known : field ∈ fields) : ∃ a ∈ attributes, a.field = field := by
  have all : attributes.map Attribute.field = fields := rfl
  rw [← all] at known
  exact List.mem_map.1 known

theorem reader_null : ∀ a ∈ attributes, a.field ≠ transformationConfigField → a.reader .null = .value a.absent := by
  simp only [attributes, List.forall_mem_cons]
  simp [orNull, readListOf, nullAsEmpty, readList, Value.opened, Checked.items, Checked.itemsFrom]

theorem orNull_ne_none {α : Type} (read : Value → Checked α) {v : Value} (given : v.isNull = false) :
    orNull read v ≠ .value none := by
  have other : orNull read v = (read v).map some := by
    cases v with
    | null => cases given
    | _ => rfl
  rw [other]
  cases read v <;> nofun

/-- Where the two names differ, an attribute that is read from a value is not like an absent one. -/
theorem reader_ne_absent : ∀ a ∈ attributes, a.field ≠ transformationConfigField →
    a.field.camel ≠ a.field.snake → ∀ v, v.isNull = false → a.reader v ≠ .value a.absent := by
  simp only [attributes, List.forall_mem_cons]
  -- Attributes with two names are read by `orNull`; the others have one name, and the settings are excluded.
  refine ⟨fun _ _ _ => orNull_ne_none _, fun _ _ _ => orNull_ne_none _, fun _ two => absurd rfl two,
    fun _ _ _ => orNull_ne_none _, fun _ _ _ => orNull_ne_none _, fun _ _ _ => orNull_ne_none _,
    fun _ two => absurd rfl two, fun _ _ _ => orNull_ne_none _, fun _ two => absurd rfl two, fun _ two => absurd rfl two,
    fun _ two => absurd rfl two, fun _ two => absurd rfl two, fun _ two => absurd rfl two,
    fun _ _ _ => orNull_ne_none _, fun other => absurd rfl other, fun _ none => absurd none List.not_mem_nil⟩

/-- After reading, the attribute of every setting holds what the mapping gives for it, on the mapping itself or
among its settings, and is absent if nothing is given; the only exception is a field that is hidden while something
is given for it. The attribute of a hidden field is always absent. -/
theorem get_eq_configured_iff {v : Value} {draft : MappingDraft} (isMap : v.opened = .map entries)
    (read : MappingDraft.read v = .value draft) (lifted : field ∈ liftedFields) :
    (∃ a ∈ attributes, a.field = field) ∧ ∀ a ∈ attributes, a.field = field →
      (a.readGiven (configured? field entries) = .value (a.get draft) ↔
        ¬(Hidden field entries ∧ (configured? field entries).isSome)) ∧
      (Hidden field entries → a.get draft = a.absent) := by
  obtain ⟨known, notSettings⟩ := mem_fields_of_lifted lifted
  refine ⟨exists_attribute known, ?_⟩
  rintro a ha rfl
  have null := reader_null a ha notSettings
  have found : a.readGiven (a.field.value? (lift entries)) = .value (a.get draft) := by
    rw [MappingDraft.read, isMap] at read
    exact Attribute.read_eq_value_iff.1 (readsBy_attributes.value _ draft read a ha)
  by_cases hidden : Hidden a.field entries
  · rw [value?_lift_of_hidden lifted hidden] at found
    have absent : a.get draft = a.absent := Checked.value.inj (found.symm.trans null)
    refine ⟨?_, fun _ => absent⟩
    cases given : configured? a.field entries with
    | none => simp [Attribute.readGiven, absent]
    | some own =>
      -- The field has two names, so that whatever is read from a value differs from what is absent.
      refine iff_of_false ?_ fun visible => visible ⟨hidden, rfl⟩
      rw [absent]
      exact reader_ne_absent a ha notSettings hidden.1 own (isNull_of_configured? given)
  · refine ⟨iff_of_true ?_ fun h => hidden h.1, fun h => absurd h hidden⟩
    rw [← given_value?_lift lifted hidden, Attribute.readGiven_filter null, found]

/-- A null under the snake-case name does not keep a setting from being lifted, and another setting gives way to
what stands on the mapping. -/
theorem get_eq_configured_iff_snakeNull :
    let settings : Entries := [("value".toList, .text "99"), ("defaultValue".toList, .text "N/A")]
    let entries : Entries :=
      [("value".toList, .int 1), ("default_value".toList, .null), ("transformationConfig".toList, .map settings)]
    ∃ draft, MappingDraft.read (.map entries) = .value draft ∧ draft.defaultValue = some "N/A".toList ∧
      draft.value = some "1".toList := by
  intro settings entries
  obtain ⟨draft, read⟩ : ∃ draft, MappingDraft.read (.map entries) = .value draft := ⟨_, rfl⟩
  have ofSetting := (get_eq_configured_iff (Value.opened_map entries) read
    (show defaultValueField ∈ liftedFields by decide)).2
    ⟨_, defaultValueField, none, orNull readWritten, MappingDraft.defaultValue⟩
    (by simp [attributes]) rfl
  have ofMapping := (get_eq_configured_iff (Value.opened_map entries) read
    (show valueField ∈ liftedFields by decide)).2
    ⟨_, valueField, none, orNull readWritten, MappingDraft.value⟩ (by simp [attributes]) rfl
  have defaultVisible : ¬Hidden defaultValueField entries :=
    fun hidden => Option.some_ne_none Value.null hidden.2.symm
  have valueVisible : ¬Hidden valueField entries := fun hidden => hidden.1 rfl
  exact ⟨draft, read, (Checked.value.inj (ofSetting.1.2 fun h => defaultVisible h.1)).symm,
    (Checked.value.inj (ofMapping.1.2 fun h => valueVisible h.1)).symm⟩

/-- A null under the camel-case name hides the setting that is lifted. -/
theorem defaultValue_camelNull :
    let settings : Entries := [("defaultValue".toList, .text "N/A")]
    let entries : Entries := [("defaultValue".toList, .null), ("transformationConfig".toList, .map settings)]
    configured? defaultValueField entries = some (.text "N/A") ∧
      ∃ draft, MappingDraft.read (.map entries) = .value draft ∧ draft.defaultValue = none :=
  ⟨rfl, _, rfl, rfl⟩

end MappingDraft
end Definition
end FixedExtract
