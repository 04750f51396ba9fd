import FixedExtract.Proofs.Compiled.RoundTrip
import FixedExtract.Proofs.Definition.Accepted
import FixedExtract.Proofs.Yaml.Faithful
/-!
# Compiled text is read back

What is read from the compiled text of a definition is the document of its layout: every text comes back
character for character, and the keys in order. That takes a document that is written as it is read. A text
with a next line stands between single quotes as it is and is read with a space, and a key whose escapes
take it too far from its colon is not found again.
-/

namespace FixedExtract.Compiled

open Definition (ConfigDraft Submission)
open Layout (Condition Config ElseIf Mapping Transformation)
open Yaml (Document)

/-! ## Keys of compiled documents -/

/-- The entries have some of the keys, in order, and no document among them has a key twice. -/
structure Under (keys : List Text) (fields : Fields) : Prop where
  keys : (fields.map Prod.fst).Sublist keys
  inside : ∀ e ∈ fields, e.2.KeysDiffer

namespace Under

variable {keys keys' : List Text} {fields fields' : Fields} {key : Text} {document : Document}

theorem nil (keys : List Text) : Under keys [] := ⟨List.nil_sublist keys, List.forall_mem_nil _⟩

theorem cons (rest : Under keys fields) (key : Text) (differ : document.KeysDiffer) :
    Under (key :: keys) (field key document :: fields) :=
  ⟨rest.keys.cons_cons key, List.forall_mem_cons.2 ⟨differ, rest.inside⟩⟩

theorem entry (rest : Under keys fields) (key text : Text) : Under (key :: keys) (entry key text :: fields) :=
  rest.cons key (Document.keysDiffer_text text)

theorem optional (key : Text) (text : Option Text) : Under [key] (optional key text) := by
  cases text with
  | none => exact nil [key]
  | some t => exact (nil []).entry key t

theorem append (first : Under keys fields) (second : Under keys' fields') :
    Under (keys ++ keys') (fields ++ fields') := by
  refine ⟨?_, List.forall_mem_append.2 ⟨first.inside, second.inside⟩⟩
  rw [List.map_append]
  exact first.keys.append second.keys

theorem mono (h : Under keys fields) (more : keys.Sublist keys') : Under keys' fields :=
  ⟨h.keys.trans more, h.inside⟩

theorem keysDiffer (h : Under keys fields) (distinct : keys.Nodup) : (Document.map fields).KeysDiffer :=
  Document.keysDiffer_map_iff.2 ⟨distinct.sublist h.keys, h.inside⟩

end Under

theorem keysDiffer_elseIfDocument (branch : ElseIf) : (elseIfDocument branch).KeysDiffer := by
  have both := ((Under.nil []).entry "then" branch.value).entry "ifExpr" branch.condition
  exact both.keysDiffer (by decide)

theorem under_elseIfFields (c : Condition) : Under ["elseIfExprs"] (elseIfFields c) := by
  unfold elseIfFields
  split
  · exact .nil _
  · refine (Under.nil []).cons _ (Document.keysDiffer_list_iff.2 (List.forall_mem_map.2 ?_))
    exact fun branch _ => keysDiffer_elseIfDocument branch

theorem keysDiffer_conditionDocument (c : Condition) : (conditionDocument c).KeysDiffer := by
  have branches := ((under_elseIfFields c).entry "then" c.value).entry "ifExpr" c.ifExpr.text
  have all := branches.append (.optional "elseExpr" c.elseExpr)
  exact all.keysDiffer (by decide)

/-- The keys that transformations add to their fields. -/
def transformationKeys : List Text :=
  ["sourceField", "value", "sources", "delimiter", "transform", "conditions"]

theorem under_transformationFields (t : Transformation) : Under transformationKeys (transformationFields t) := by
  cases t with
  | source name => exact ((Under.nil []).entry "sourceField" name.text).mono (by decide)
  | constant value => exact (Under.optional "value" value).mono (by decide)
  | composite sources delimiter operation nonEmpty =>
    have names : (Document.list (sources.map fun source => .text source.text)).KeysDiffer :=
      Document.keysDiffer_list_iff.2 (List.forall_mem_map.2 fun source _ => Document.keysDiffer_text _)
    exact (((Under.optional "delimiter" _).cons "sources" names).append
      (.optional "transform" _)).mono (by decide)
  | conditional conditions nonEmpty =>
    have all : (Document.list (conditions.map conditionDocument)).KeysDiffer :=
      Document.keysDiffer_list_iff.2 (List.forall_mem_map.2 fun c _ => keysDiffer_conditionDocument c)
    exact ((Under.nil []).cons "conditions" all).mono (by decide)

/-- The keys that fields of every kind have in front. -/
def placementKeys : List Text :=
  ["fieldName", "targetPosition", "length", "pad", "padChar", "dataType", "transformationType"]

theorem under_placementFields (m : Mapping) : Under placementKeys (placementFields m) := by
  have last := ((Under.nil []).entry "transformationType" m.transformation.kind.name).entry
    "dataType" m.dataType
  have pad := (Under.optional "padChar" (if m.padChar = ' ' then none else some [m.padChar])).entry
    "pad" m.pad.name
  have numbers := (pad.cons "length" (Document.keysDiffer_int m.length)).cons "targetPosition"
    (Document.keysDiffer_int m.position)
  exact (numbers.entry "fieldName" m.name).append last

theorem keysDiffer_mappingDocument (m : Mapping) : (mappingDocument m).KeysDiffer := by
  have all := ((under_placementFields m).append (under_transformationFields m.transformation)).append
    (.optional "defaultValue" m.defaultValue)
  exact all.keysDiffer (by decide)

/-- A document that is put under a key takes the place of the one that is there. -/
theorem keysDiffer_putField {fields : Fields} {key : Text} {document : Document}
    (differ : (Document.map fields).KeysDiffer) (new : document.KeysDiffer) :
    (Document.map (putField fields key document)).KeysDiffer := by
  rw [Document.keysDiffer_map_iff] at differ ⊢
  obtain ⟨distinct, inside⟩ := differ
  unfold putField
  split
  · -- A document is replaced where its key is, so the keys stay as they are.
    have same : (fun field : Text × Document => if field.1 == key then (key, document) else field) =
        fun field => (field.1, if field.1 == key then document else field.2) := by
      funext field
      split
      · next h => rw [beq_iff_eq.1 h]
      · rfl
    rw [same, List.map_map, List.forall_mem_map]
    refine ⟨distinct, fun field member => ?_⟩
    split
    · exact new
    · exact inside field member
  · next absent =>
    rw [List.any_eq_true] at absent
    rw [List.map_append, List.map_singleton, ← List.concat_eq_append, List.nodup_concat,
      List.forall_mem_append, List.forall_mem_singleton]
    refine ⟨⟨?_, distinct⟩, inside, new⟩
    intro member
    obtain ⟨field, hf, same⟩ := List.mem_map.1 member
    exact absent ⟨field, hf, beq_iff_eq.2 same⟩

theorem keysDiffer_fieldDocuments (mappings : List Mapping) :
    (Document.map (fieldDocuments mappings)).KeysDiffer := by
  let put := fun (fields : Fields) (m : Mapping) =>
    putField fields (Definition.fieldKey m.name) (mappingDocument m)
  have steps : ∀ (mappings : List Mapping) (fields : Fields), (Document.map fields).KeysDiffer →
      (Document.map (mappings.foldl put fields)).KeysDiffer := by
    intro mappings
    induction mappings with
    | nil => exact fun _ differ => differ
    | cons m rest ih =>
      exact fun fields differ => ih _ (keysDiffer_putField differ (keysDiffer_mappingDocument m))
  exact steps mappings [] (Document.keysDiffer_map_iff.2 ⟨List.nodup_nil, List.forall_mem_nil _⟩)

/-- No map in the document of a layout has a key twice, whatever the names of its fields are. -/
theorem keysDiffer_document (config : Config) : (document config).KeysDiffer := by
  have fields := (Under.nil []).cons "fields" (keysDiffer_fieldDocuments config.mappings)
  have all := ((fields.entry "transactionType" config.transactionType).entry
    "sourceSystem" config.sourceSystem).entry "fileType" config.jobName
  exact all.keysDiffer (by decide)

/-! ## Reading compiled text -/

/-- A definition that the check accepts, as a map or as a draft, is compiled to the text of its layout. When
what is in the document of the layout is kept, the document is all that is read from the text. -/
theorem readAll_of_checkShape {maximum : Int} {submission : Submission}
    (accepted : (Definition.checkShape maximum submission).valid = true) :
    ∃ config, Definition.load maximum submission = .ok config ∧
      compile maximum submission = .ok (text config) ∧
      ((document config).Kept → Yaml.readAll (text config) = .ok [(document config).toValue]) := by
  obtain ⟨config, loaded⟩ := Definition.exists_load_of_accepted accepted
  refine ⟨config, loaded, ?_, ?_⟩
  · rw [compile, loaded]
    rfl
  · exact fun kept =>
      Yaml.readAll_write _ _ (Document.legible_of_kept _ kept (keysDiffer_document config))

theorem readAll_of_checkShape_constantLayout :
    let submission := Submission.draft (ConfigDraft.ofConfig constantLayout)
    (Definition.checkShape 2 submission).valid = true ∧
      compile 2 submission = .ok (text constantLayout) ∧
      (document constantLayout).Kept ∧
      Yaml.readAll (text constantLayout) = .ok [(document constantLayout).toValue] := by
  intro submission
  have accepted : (Definition.checkShape 2 submission).valid = true :=
    (ConfigDraft.wellFormed_ofConfig sound_constantLayout).valid
  have kept : (document constantLayout).Kept := by decide +kernel
  have loads : Definition.load 2 submission = .ok constantLayout :=
    Definition.load_eq_ok_iff.2 ⟨ConfigDraft.wellFormed_ofConfig sound_constantLayout,
      ConfigDraft.toConfig_ofConfig fun m hm => (sound_constantLayout.mappings m hm).dataType⟩
  obtain ⟨config, loaded, compiled, read⟩ := readAll_of_checkShape accepted
  rw [loads] at loaded
  cases loaded
  exact ⟨accepted, compiled, kept, read kept⟩

/-! ### A next line between single quotes -/

/-- The layout of one field with a constant value. -/
def valueLayout (value : Text) : Config where
  sourceSystem := ['s']
  jobName := ['j']
  transactionType := ['t']
  mappings := [⟨['F'], 1, 3, .constant (some value), .right, ' ', ['S'], none, Nat.one_pos,
    Nat.succ_pos 2⟩]
  version := 1
  lastModified := none

theorem sound_valueLayout (value : Text) : (valueLayout value).Sound 3 where
  sourceSystem := show Text.isBlank ['s'] = false by decide
  jobName := show Text.isBlank ['j'] = false by decide
  nonEmpty := List.cons_ne_nil _ _
  mappings := by
    intro m hm
    rw [valueLayout, List.mem_singleton] at hm
    subst hm
    exact ⟨show Text.isBlank ['F'] = false by decide, List.cons_ne_nil _ _,
      by simp [Layout.Transformation.conditions]⟩
  keys := List.nodup_singleton _
  positions := List.nodup_singleton _
  width := show ((3 : Nat) : Int) ≤ 3 by decide

/-- A next line in a value that is accepted comes back as a space. -/
theorem readAll_nextLine :
    let submission := Submission.draft (ConfigDraft.ofConfig (valueLayout ['a', '\u0085', 'b']))
    (Definition.checkShape 3 submission).valid = true ∧
      compile 3 submission = .ok (text (valueLayout ['a', '\u0085', 'b'])) ∧
      Yaml.readAll (text (valueLayout ['a', '\u0085', 'b'])) =
        .ok [(document (valueLayout ['a', ' ', 'b'])).toValue] ∧
      (document (valueLayout ['a', ' ', 'b'])).toValue ≠
        (document (valueLayout ['a', '\u0085', 'b'])).toValue := by
  intro submission
  have wellFormed := ConfigDraft.wellFormed_ofConfig (sound_valueLayout ['a', '\u0085', 'b'])
  have loaded : Definition.load 3 submission = .ok (valueLayout ['a', '\u0085', 'b']) :=
    Definition.load_eq_ok_iff.2 ⟨wellFormed, ConfigDraft.toConfig_ofConfig fun m hm =>
      ((sound_valueLayout _).mappings m hm).dataType⟩
  refine ⟨wellFormed.valid, ?_, ?_, ?_⟩
  · rw [compile, loaded]
    rfl
  · exact readAll_eq_of_areItems [document (valueLayout ['a', ' ', 'b'])] (by decide +kernel)
  · simp [document, valueLayout, fieldDocuments, putField, mappingDocument, placementFields,
      transformationFields, optional, field, entry, Document.toValue, Document.entryValues]

end FixedExtract.Compiled
