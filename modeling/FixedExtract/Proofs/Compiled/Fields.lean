import FixedExtract.Compiled.Load
import FixedExtract.Compiled.Compile
import FixedExtract.Proofs.Definition.Drafting
import FixedExtract.Proofs.Definition.Reading
/-!
# Fields of compiled documents

What a key holds in the entries of a field. The entries are written in several groups, some of which may
be empty, so a key is looked for in one group after the other.
-/

namespace FixedExtract.Compiled

open Definition (ConditionDraft FieldName MappingDraft)
open Layout (Condition Mapping Transformation)
open Yaml (Document)

/-! ## Groups of entries -/

/-- Keys are compared as they are written. -/
theorem beq_toList (a b : String) : (a.toList == b.toList) = (a == b) := by
  rw [Bool.eq_iff_iff, beq_iff_eq, beq_iff_eq, String.toList_inj]

theorem lookup_field_cons (key name : String) (document : Document) (rest : Fields) :
    (field name document :: rest).lookup key.toList =
      if key == name then some document else rest.lookup key.toList := by
  rw [field, List.lookup_cons, beq_toList]
  cases key == name <;> rfl

theorem lookup_entry_cons (key name : String) (text : Text) (rest : Fields) :
    (entry name text :: rest).lookup key.toList =
      if key == name then some (.text text) else rest.lookup key.toList :=
  lookup_field_cons key name (.text text) rest

theorem lookup_optional (key name : String) (text : Option Text) :
    (optional name text).lookup key.toList =
      if key == name then text.map Document.text else none := by
  cases text with
  | none => rw [Option.map_none, ite_self, optional, Option.toList_none, List.map_nil, List.lookup_nil]
  | some t =>
    rw [optional, Option.toList_some, List.map_singleton, lookup_entry_cons]
    rfl

/-! ## Transformations -/

/-- The document of the sources of a composite. -/
def sourcesDocument? : Transformation → Option Document
  | .composite sources .. => some (.list (sources.map fun source => .text source.text))
  | _ => none

/-- The document of the conditions of a conditional. -/
def conditionsDocument? : Transformation → Option Document
  | .conditional conditions _ => some (.list (conditions.map conditionDocument))
  | _ => none

/-- What a key holds in the entries that a transformation adds. -/
theorem lookup_transformationFields (key : String) (t : Transformation) :
    (transformationFields t).lookup key.toList =
      if key == "sourceField" then t.sourceField?.map Document.text
      else if key == "value" then t.value?.map Document.text
      else if key == "sources" then sourcesDocument? t
      else if key == "delimiter" then t.delimiter?.map Document.text
      else if key == "transform" then t.word?.map Document.text
      else if key == "conditions" then conditionsDocument? t
      else none := by
  cases t with
  | source name =>
    simp only [transformationFields, lookup_entry_cons, List.lookup_nil, Transformation.sourceField?,
      Transformation.value?, sourcesDocument?, Transformation.delimiter?, Transformation.word?,
      conditionsDocument?, Option.map_none, Option.map_some, ite_self]
  | constant value =>
    simp only [transformationFields, lookup_optional, Transformation.sourceField?,
      Transformation.value?, sourcesDocument?, Transformation.delimiter?, Transformation.word?,
      conditionsDocument?, Option.map_none, ite_self]
    split_ifs <;> simp_all
  | composite sources delimiter operation nonEmpty =>
    simp only [transformationFields, lookup_field_cons, List.cons_append, List.lookup_append,
      lookup_optional, Transformation.sourceField?,
      Transformation.value?, sourcesDocument?, Transformation.delimiter?, Transformation.word?,
      conditionsDocument?, Option.map_none, ite_self]
    split_ifs <;> simp_all
  | conditional conditions nonEmpty =>
    simp only [transformationFields, lookup_field_cons, List.lookup_nil, Transformation.sourceField?,
      Transformation.value?, sourcesDocument?, Transformation.delimiter?, Transformation.word?,
      conditionsDocument?, Option.map_none]
    split_ifs <;> simp_all

/-! ## Mappings -/

/-- The entries of a mapping but its name. -/
def settingFields (m : Mapping) : Fields :=
  field "targetPosition" (.int m.position) :: field "length" (.int m.length) ::
    entry "pad" m.pad.name :: optional "padChar" m.padChar? ++
    [entry "dataType" m.dataType, entry "transformationType" m.transformation.kind.name] ++
    transformationFields m.transformation ++ optional "defaultValue" m.defaultValue

theorem mappingDocument_eq (m : Mapping) :
    mappingDocument m = .map (entry "fieldName" m.name :: settingFields m) := rfl

/-- What a key holds in the entries of a mapping but its name. -/
theorem lookup_settingFields (key : String) (m : Mapping) :
    (settingFields m).lookup key.toList =
      if key == "targetPosition" then some (.int m.position)
      else if key == "length" then some (.int m.length)
      else if key == "pad" then some (.text m.pad.name)
      else if key == "padChar" then m.padChar?.map Document.text
      else if key == "dataType" then some (.text m.dataType)
      else if key == "transformationType" then some (.text m.transformation.kind.name)
      else if key == "sourceField" then m.transformation.sourceField?.map Document.text
      else if key == "value" then m.transformation.value?.map Document.text
      else if key == "sources" then sourcesDocument? m.transformation
      else if key == "delimiter" then m.transformation.delimiter?.map Document.text
      else if key == "transform" then m.transformation.word?.map Document.text
      else if key == "conditions" then conditionsDocument? m.transformation
      else if key == "defaultValue" then m.defaultValue.map Document.text
      else none := by
  simp only [settingFields, List.cons_append, List.lookup_append, lookup_field_cons,
    lookup_entry_cons, lookup_optional, lookup_transformationFields, List.lookup_nil]
  -- A key is in one group only, so the groups before and after it say nothing.
  by_cases known : key ∈ ["padChar", "dataType", "transformationType", "sourceField", "value",
    "sources", "delimiter", "transform", "conditions", "defaultValue"]
  · simp only [List.mem_cons, List.not_mem_nil, or_false] at known
    rcases known with rfl | rfl | rfl | rfl | rfl | rfl | rfl | rfl | rfl | rfl <;> simp
  · simp only [List.mem_cons, List.not_mem_nil, or_false, not_or] at known
    simp [known]

/-- A key that holds nothing is no key of the entries. -/
theorem ne_of_lookup_eq_none {fields : Fields} {key : Text} (h : fields.lookup key = none) :
    ∀ entry ∈ fields, entry.1 ≠ key := by
  intro entry he same
  have other := List.lookup_eq_none_iff.1 h entry he
  rw [same] at other
  simp at other

/-- The entries of a field as a mapping is read from them: the name comes last, under the key of a
target name. -/
def mappingFields (m : Mapping) : Fields := settingFields m ++ [entry "targetFieldName" m.name]

theorem lookup_mappingFields (key : String) (m : Mapping) :
    (mappingFields m).lookup key.toList =
      if key == "targetFieldName" then some (.text m.name)
      else (settingFields m).lookup key.toList := by
  rw [mappingFields, List.lookup_append, lookup_entry_cons, List.lookup_nil]
  by_cases name : key = "targetFieldName"
  · have other : (settingFields m).lookup key.toList = none := by
      rw [name]
      exact lookup_settingFields "targetFieldName" m
    rw [other, name]
    rfl
  · rw [if_neg (by simpa using name), if_neg (by simpa using name), Option.or_none]

/-- The entries of the document of a mapping are those that the mapping is read from. -/
theorem mappingEntries_mappingDocument (key : Value) (m : Mapping) :
    mappingEntries key (Document.entryValues (entry "fieldName" m.name :: settingFields m)) =
      Document.entryValues (mappingFields m) := by
  have noName := ne_of_lookup_eq_none (lookup_settingFields "fieldName" m)
  have noTarget := ne_of_lookup_eq_none (lookup_settingFields "targetFieldName" m)
  have name : Entries.get? "fieldName"
      (Document.entryValues (entry "fieldName" m.name :: settingFields m)) = some (.text m.name) := by
    rw [Document.get?_entryValues, lookup_entry_cons]
    rfl
  have rest : (entry "fieldName" m.name :: settingFields m).filter
      (fun e => !e.1 == "fieldName".toList) = settingFields m := by
    rw [List.filter_cons_of_neg (by simp [entry]), List.filter_eq_self]
    intro e he
    simpa using noName e he
  rw [mappingEntries, name, Document.without_entryValues, rest]
  exact Document.put_entryValues (.text m.name) noTarget

/-! ## Layouts -/

/-- Documents under new keys that differ come one after the other. -/
theorem foldl_putField {mappings : List Mapping} {fields : Fields}
    (distinct : (mappings.map fun m => Definition.fieldKey m.name).Nodup)
    (new : ∀ m ∈ mappings, ∀ entry ∈ fields, entry.1 ≠ Definition.fieldKey m.name) :
    mappings.foldl
        (fun fields m => putField fields (Definition.fieldKey m.name) (mappingDocument m)) fields =
      fields ++ mappings.map fun m => (Definition.fieldKey m.name, mappingDocument m) := by
  induction mappings generalizing fields with
  | nil => rw [List.foldl_nil, List.map_nil, List.append_nil]
  | cons m rest ih =>
    rw [List.map_cons, List.nodup_cons] at distinct
    have absent : ¬ fields.any (fun entry => entry.1 == Definition.fieldKey m.name) = true := by
      rw [List.any_eq_true]
      rintro ⟨entry, he, same⟩
      exact new m List.mem_cons_self entry he (beq_iff_eq.1 same)
    rw [List.foldl_cons, putField, if_neg absent, ih distinct.2, List.map_cons, List.append_assoc]
    · rfl
    · intro other ho entry he
      rw [List.mem_append, List.mem_singleton] at he
      rcases he with he | rfl
      · exact new other (List.mem_cons_of_mem m ho) entry he
      · intro same
        exact distinct.1 (List.mem_map.2 ⟨other, ho, same.symm⟩)

theorem fieldDocuments_eq_map {mappings : List Mapping}
    (distinct : (mappings.map fun m => Definition.fieldKey m.name).Nodup) :
    fieldDocuments mappings =
      mappings.map fun m => (Definition.fieldKey m.name, mappingDocument m) := by
  rw [fieldDocuments, foldl_putField distinct (by simp), List.nil_append]

end FixedExtract.Compiled
