import FixedExtract.Proofs.Definition.Dropping
/-!
# Reading without what cannot be read

When some fields of a map have the wrong type, their faults are reported and the map is read again without them.
The second reading always succeeds: every attribute that has no fault is what it is by itself, and the others are
as if their fields had never been there.
-/

namespace FixedExtract.Definition

/-! ## Reading again -/

section
variable {δ : Type} {attributes : List (Attribute δ)}

/-- Without the fields that cannot be read the rest is read, and every attribute is what it is by itself. -/
theorem ReadsBy.exists_reread {read : Entries → Checked δ} (reads : ReadsBy attributes read)
    {dropped : List FieldName} {before after : Entries}
    (named : ∀ a ∈ attributes, a.field ∈ dropped ↔ a.faults before ≠ [])
    (gone : ∀ a ∈ attributes, a.field ∈ dropped → a.field.find? after = none)
    (same : ∀ a ∈ attributes, a.field ∉ dropped → a.read after = a.read before) :
    ∃ draft, read after = .value draft ∧ ∀ a ∈ attributes, a.get draft = (a.read before).getD a.absent := by
  -- Nothing is wrong any more: what had faults is absent, and the rest had none and is the same.
  have clean : ∀ a ∈ attributes, a.faults after = [] := by
    intro a ha
    by_cases hd : a.field ∈ dropped
    · rw [Attribute.faults, Attribute.read_of_absent (gone a ha hd)]
      rfl
    · rw [Attribute.faults, same a ha hd]
      exact by_contra fun faulty => hd ((named a ha).2 faulty)
  obtain ⟨draft, again⟩ := (reads.explained after).exists_value
    ((reads.faults after).trans (List.flatMap_eq_nil_iff.2 clean))
  refine ⟨draft, again, ?_⟩
  intro a ha
  have own := reads.value after draft again a ha
  by_cases hd : a.field ∈ dropped
  · rw [Attribute.read_of_absent (gone a ha hd)] at own
    cases outcome : a.read before with
    | value x =>
      have faulty := (named a ha).1 hd
      rw [Attribute.faults, outcome] at faulty
      exact absurd rfl faulty
    | faults found => exact (Checked.value.inj own).symm
  · rw [← same a ha hd, own]
    rfl

/-- What reading in parts makes of a map: the faults of every attribute, each at the place of its field, and the
draft of the map without the fields that have faults, of which nothing is found any more. Every attribute is what
is read for it by itself, or absent if it cannot be read. -/
structure PartlyRead (attributes : List (Attribute δ)) (prepare : Entries → Entries) (read : Value → Checked δ)
    (entries : Entries) (dropped : List FieldName) (reading : Partial δ) : Prop where
  faults : reading.faults = attributes.flatMap fun a => a.faults (prepare entries)
  places : ∀ a ∈ attributes, ∀ fault ∈ a.faults (prepare entries), ∃ name v inner,
    a.field.find? (prepare entries) = some (name, v) ∧ inner ∈ (a.reader v).found ∧
      fault = inner.under (.key name)
  named : ∀ a ∈ attributes, a.field ∈ dropped ↔ a.faults (prepare entries) ≠ []
  cleaned : Drops dropped entries (withoutFields dropped entries)
  reread : read (.map (withoutFields dropped entries)) = .value reading.draft
  gone : ∀ field ∈ dropped, field.find? (prepare (withoutFields dropped entries)) = none
  own : ∀ a ∈ attributes, a.get reading.draft = (a.read (prepare entries)).getD a.absent

section
variable {inner : Entries → Checked δ} (reads : ReadsBy attributes inner) {prepare : Entries → Entries}
  {read : Value → Checked δ} (readMap : ∀ entries, read (.map entries) = inner (prepare entries))
  {entries : Entries}
include reads readMap

theorem ReadsBy.faults_readPartially (blank : δ) :
    (readPartially (attributes.map Attribute.field) blank read (.map entries)).faults =
      attributes.flatMap fun a => a.faults (prepare entries) := by
  rw [← reads.faults, ← readMap]
  unfold readPartially
  cases read (.map entries) with
  | value draft => rfl
  | faults found =>
    simp only [Value.opened_map]
    split <;> rfl

theorem ReadsBy.partlyRead (blank : δ) {dropped : List FieldName}
    (faulty : dropped = faultyFields (attributes.map Attribute.field)
      (attributes.flatMap fun a => a.faults (prepare entries)))
    (gone : ∀ field ∈ dropped, field.find? (prepare (withoutFields dropped entries)) = none)
    (same : ∀ a ∈ attributes, a.field ∉ dropped →
      a.read (prepare (withoutFields dropped entries)) = a.read (prepare entries)) :
    PartlyRead attributes prepare read entries dropped
      (readPartially (attributes.map Attribute.field) blank read (.map entries)) := by
  have named : ∀ a ∈ attributes, a.field ∈ dropped ↔ a.faults (prepare entries) ≠ [] := by
    intro a ha
    rw [faulty]
    exact mem_faultyFields_iff reads.distinct ha
  obtain ⟨draft, again, own⟩ := reads.exists_reread named (fun a _ => gone a.field) same
  have found := reads.faults (prepare entries)
  have drafted : (readPartially (attributes.map Attribute.field) blank read (.map entries)).draft = draft := by
    unfold readPartially
    cases outcome : inner (prepare entries) with
    | value whole =>
      -- There was nothing to leave out, and both drafts have the attributes that are read by themselves.
      simp only [readMap, outcome]
      refine reads.ext whole draft fun a ha => ?_
      rw [own a ha, reads.value _ _ outcome a ha]
      rfl
    | faults all =>
      rw [outcome] at found
      have all_eq : all = attributes.flatMap fun a => a.faults (prepare entries) := found
      simp only [readMap, outcome, Value.opened_map]
      rw [all_eq, ← faulty, again]
  refine ⟨reads.faults_readPartially readMap blank, ?_, named, drops_withoutFields dropped entries, ?_, gone, ?_⟩
  · exact fun a _ fault member => Attribute.exists_find?_of_mem_faults member
  · rw [readMap, again, drafted]
  · rw [drafted]
    exact own

end

end

/-! ## Objects of JSON -/

/-- The values that JSON can write. -/
inductive IsJson : Value → Prop where
  | null : IsJson .null
  | bool (b : Bool) : IsJson (.bool b)
  | int (n : Int) : IsJson (.int n)
  | float (x : Double) : IsJson (.float x)
  | text (t : Text) : IsJson (.text t)
  | list (items : List Value) (each : ∀ v ∈ items, IsJson v) : IsJson (.list items)
  | map (entries : Entries) (keys : ∀ entry ∈ entries, ∃ t, entry.1 = .text t)
      (each : ∀ entry ∈ entries, IsJson entry.2) : IsJson (.map entries)

theorem IsJson.of_get? {entries : Entries} (json : IsJson (.map entries)) {key : Text} {v : Value}
    (h : entries.get? key = some v) : IsJson v := by
  cases json with
  | map entries keys each => exact each _ (Entries.mem_of_get? h)

theorem IsJson.of_find? {entries : Entries} (json : IsJson (.map entries)) {field : FieldName} {name : Text}
    {v : Value} (h : field.find? entries = some (name, v)) : IsJson v := by
  unfold FieldName.find? at h
  split at h
  · rename_i found
    cases h
    exact json.of_get? found
  · obtain ⟨_, found, made⟩ := Option.map_eq_some_iff.1 h
    cases made
    exact json.of_get? found

/-- A map of settings in JSON can be read. -/
theorem IsJson.readSettings {v : Value} (json : IsJson v) {settings : Entries}
    (opened : v.opened = .map settings) : MappingDraft.readSettings v = .value () := by
  refine MappingDraft.readSettings_eq_value_iff.2 ⟨settings, opened, ?_⟩
  cases json with
  | map entries keys each =>
    cases opened
    intro entry member
    obtain ⟨t, key⟩ := keys entry member
    exact ⟨t, by rw [key]; rfl⟩
  | null | bool _ | int _ | float _ | text _ | list _ _ => cases opened

namespace MappingDraft

/-- The map of settings, of which a draft keeps nothing. -/
def settingsAttribute : Attribute MappingDraft :=
  ⟨Unit, transformationConfigField, (), readSettings, fun _ => ()⟩

theorem settingsAttribute_mem : settingsAttribute ∈ attributes := by
  simp [attributes, settingsAttribute]

theorem read_settings_lift (entries : Entries) :
    settingsAttribute.read (lift entries) = transformationConfigField.read entries () readSettings := by
  show transformationConfigField.read (lift entries) () readSettings = _
  rw [FieldName.read, find?_settings_lift, FieldName.read]

theorem read_settings_withoutFields {dropped : List FieldName} {entries : Entries}
    (known : ∀ f ∈ dropped, f ∈ fields) (kept : transformationConfigField ∉ dropped)
    (read : transformationConfigField.read entries () readSettings = .value ()) :
    transformationConfigField.read (withoutFields dropped entries) () readSettings = .value () := by
  unfold FieldName.read at read ⊢
  rw [find?_settings_withoutFields known kept]
  cases found : transformationConfigField.find? entries with
  | none => rfl
  | some entry =>
    rw [found] at read
    have given : readSettings entry.2 = .value () := Checked.under_eq_value_iff.1 read
    exact Checked.under_eq_value_iff.2 (readSettings_settingsWithout given)

/-- Settings in JSON that can be lifted are no fault themselves. -/
theorem settings?_eq_none_of_faults {entries : Entries} (json : IsJson (.map entries))
    (faulty : settingsAttribute.faults (lift entries) ≠ []) : settings? entries = none := by
  rw [Attribute.faults, read_settings_lift, FieldName.read] at faulty
  unfold settings?
  cases found : transformationConfigField.find? entries with
  | none => rfl
  | some entry =>
    rw [found] at faulty
    cases opened : entry.2.opened with
    | map settings =>
      have read := (json.of_find? found).readSettings opened
      simp only [read] at faulty
      exact absurd rfl faulty
    | _ => simp [opened]

/-- An attribute that can be read is read the same without fields that are left out. -/
theorem read_lift_withoutFields {dropped : List FieldName} {entries : Entries} (known : ∀ f ∈ dropped, f ∈ fields)
    (noSettings : transformationConfigField ∈ dropped → settings? entries = none) {a : Attribute MappingDraft}
    (ha : a ∈ attributes) (kept : a.field ∉ dropped) (clean : a.faults (lift entries) = []) :
    a.read (lift (withoutFields dropped entries)) = a.read (lift entries) := by
  have hf : a.field ∈ fields := List.mem_map_of_mem (f := Attribute.field) ha
  by_cases settings : a.field = transformationConfigField
  · -- The map of settings may lose some of them, but what is left of it can be read like the whole.
    obtain rfl : a = settingsAttribute :=
      readsBy_attributes.distinct.eq_of_bears ha settingsAttribute_mem (.inl rfl) (.inl (by rw [settings]; rfl))
    rw [Attribute.faults] at clean
    rw [read_settings_lift] at clean ⊢
    obtain ⟨⟨⟩, read⟩ := Checked.Explained.exists_value (FieldName.explained_read explained_readSettings) clean
    rw [read_settings_lift, read, read_settings_withoutFields known kept read]
  · -- Any other field is found where it was, given or lifted, since it shares no name with those left out.
    have others : ∀ f ∈ dropped, a.field.Apart f :=
      fun f hd => apart_of_ne hf (known f hd) fun same => kept (same ▸ hd)
    have apart := apart_of_ne hf (by decide +kernel) settings
    rw [Attribute.read, FieldName.read, (drops_lift known noSettings).find?_of_apart others apart]
    rfl

/-- A mapping that is an object of JSON is read in parts: whatever is wrong with its fields, given or lifted. -/
theorem partlyRead_readPartially {entries : Entries} (json : IsJson (.map entries)) :
    PartlyRead attributes lift MappingDraft.read entries
      (faultyFields fields (MappingDraft.readPartially (.map entries)).faults)
      (MappingDraft.readPartially (.map entries)) := by
  have readMap : ∀ entries, MappingDraft.read (.map entries) = readLifted (lift entries) := fun _ => rfl
  have faults : (MappingDraft.readPartially (.map entries)).faults = _ :=
    readsBy_attributes.faults_readPartially readMap blank
  rw [faults]
  generalize leftOut : faultyFields fields (attributes.flatMap fun a => a.faults (lift entries)) = dropped
  have named {a : Attribute MappingDraft} (ha : a ∈ attributes) :
      a.field ∈ dropped ↔ a.faults (lift entries) ≠ [] :=
    leftOut ▸ mem_faultyFields_iff readsBy_attributes.distinct ha
  have known : ∀ f ∈ dropped, f ∈ fields := by
    rw [← leftOut]
    exact fun f hf => (List.mem_filter.1 hf).1
  have noSettings : transformationConfigField ∈ dropped → settings? entries = none :=
    fun lost => settings?_eq_none_of_faults json ((named settingsAttribute_mem).1 lost)
  refine readsBy_attributes.partlyRead readMap blank leftOut.symm ?_ ?_
  · exact fun _ => (drops_lift known noSettings).find?_of_mem
  · intro a ha kept
    refine read_lift_withoutFields known noSettings ha kept ?_
    exact by_contra fun faulty => kept ((named ha).2 faulty)

end MappingDraft

theorem ConfigDraft.partlyRead_readPartially (entries : Entries) :
    PartlyRead attributes id ConfigDraft.read entries
      (faultyFields fields (ConfigDraft.readPartially (.map entries)).faults)
      (ConfigDraft.readPartially (.map entries)) := by
  have readMap : ∀ entries, ConfigDraft.read (.map entries) = ConfigDraft.read (.map (id entries)) := fun _ => rfl
  have faults : (ConfigDraft.readPartially (.map entries)).faults = _ :=
    readsBy_attributes.faults_readPartially readMap blank
  rw [faults]
  generalize leftOut : faultyFields fields (attributes.flatMap fun a => a.faults (id entries)) = dropped
  have drops := drops_withoutFields dropped entries
  refine readsBy_attributes.partlyRead readMap blank leftOut.symm ?_ ?_
  · exact fun _ => drops.find?_of_mem
  · intro a ha kept
    have hf : a.field ∈ fields := List.mem_map_of_mem (f := Attribute.field) ha
    have apart : ∀ f ∈ fields, f.Apart MappingDraft.transformationConfigField ∧
        ∀ g ∈ fields, f ≠ g → f.Apart g := by decide +kernel
    have others : ∀ f ∈ dropped, a.field.Apart f := by
      intro f hd
      refine (apart a.field hf).2 f ?_ fun same => kept (same ▸ hd)
      rw [← leftOut] at hd
      exact (List.mem_filter.1 hd).1
    rw [Attribute.read, FieldName.read, id_eq, drops.find?_of_apart others (apart a.field hf).1]
    rfl

/-- An object of JSON that is given as a mapping, or as a definition, can always be read without the fields that
have the wrong type, wherever they are given: these are absent then, also from what is lifted, and all other
attributes are what they are by themselves. Of the settings only those are left out that are lifted to such a
field. The check of a definition reports every fault of its own fields and of its mappings once, at its place. -/
theorem readPartially_json (entries : Entries) (json : IsJson (.map entries)) :
    let mapping := MappingDraft.readPartially (.map entries)
    let dropped := faultyFields MappingDraft.fields mapping.faults
    let definition := ConfigDraft.readPartially (.map entries)
    let items := (mappingList (givenMappings entries)).1
    PartlyRead MappingDraft.attributes MappingDraft.lift MappingDraft.read entries dropped mapping ∧
    MappingDraft.settings? (withoutFields dropped entries) =
      (MappingDraft.settings? entries).map (keptSettings dropped) ∧
    PartlyRead ConfigDraft.attributes id ConfigDraft.read entries
      (faultyFields ConfigDraft.fields definition.faults) definition ∧
    ∀ maximum, (checkShape maximum (.entries entries)).errors.filterMap ShapeFault.typeFault? =
      (ConfigDraft.readPartially (.map (ConfigDraft.withoutMappings entries))).faults ++
      (mappingList (givenMappings entries)).2 ++
      items.zipIdx.flatMap fun (item, i) => (MappingDraft.readPartially item).faults.map fun fault =>
        (fault.under (.index i)).under (.key ConfigDraft.mappingsField.camel) := by
  intro mapping dropped definition items
  have partly := MappingDraft.partlyRead_readPartially json
  refine ⟨partly, ?_, ConfigDraft.partlyRead_readPartially entries, ?_⟩
  · by_cases lost : MappingDraft.transformationConfigField ∈ dropped
    · have faulty := (partly.named _ MappingDraft.settingsAttribute_mem).1 lost
      rw [MappingDraft.settings?_eq_none_of_faults json faulty, MappingDraft.settings?,
        partly.cleaned.find?_of_mem lost]
      rfl
    · exact MappingDraft.settings?_withoutFields (fun f hf => (List.mem_filter.1 hf).1) lost
  · intro maximum
    rw [typeFaults_checkShape, readSubmission]
    simp only [List.zipIdx_map, List.flatMap_map]
    rfl

/-- A position of the wrong type hides one of the right type under the other name; a filling character under the
second name is of the wrong type, and one among the settings does not take its place; the sources, which are only
among the settings, are of the wrong type as well, while the value there is lifted. -/
theorem readPartially_json_hidden :
    let settings : Entries :=
      [("sources".toList, .int 5), ("value".toList, .text "x"), ("padChar".toList, .text "*")]
    let entries : Entries :=
      [("targetPosition".toList, .text "first"), ("target_position".toList, .int 3), ("length".toList, .int 5),
       ("pad_char".toList, .list [.text "0"]), ("transformationConfig".toList, .map settings)]
    let dropped := [MappingDraft.targetPositionField, MappingDraft.sourcesField, MappingDraft.padCharField]
    IsJson (.map entries) ∧
      faultyFields MappingDraft.fields (MappingDraft.readPartially (.map entries)).faults = dropped ∧
      ∃ draft, MappingDraft.read (.map (withoutFields dropped entries)) = .value draft ∧
        draft.targetPosition = none ∧ draft.length = some 5 ∧ draft.value = some "x".toList ∧ draft.sources = [] ∧
        draft.padChar = none := by
  intro settings entries dropped
  have settingsJson : IsJson (.map settings) :=
    .map _ (by simp [settings]) (by simp [settings, IsJson.int, IsJson.text])
  have json : IsJson (.map entries) :=
    .map _ (by simp [entries]) (by simp [entries, IsJson.int, IsJson.text, IsJson.list, settingsJson])
  have faulty : faultyFields MappingDraft.fields (MappingDraft.readPartially (.map entries)).faults =
      dropped := by
    decide +kernel
  obtain ⟨⟨-, -, -, -, reread, -, own⟩, -⟩ := readPartially_json entries json
  rw [faulty] at reread
  generalize (MappingDraft.readPartially (.map entries)).draft = draft at reread own
  simp only [MappingDraft.attributes, List.forall_mem_cons] at own
  obtain ⟨-, position, length, -, -, -, value, -, sources, -, -, -, -, padChar, -⟩ := own
  exact ⟨json, faulty, draft, reread, position.trans (by decide +kernel), length.trans (by decide +kernel),
    value.trans (by decide +kernel), sources.trans (by decide +kernel), padChar.trans (by decide +kernel)⟩

end FixedExtract.Definition
