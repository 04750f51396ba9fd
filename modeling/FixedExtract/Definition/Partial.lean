import FixedExtract.Definition.Draft
/-!
# Reading what can be read

A map in which some fields have the wrong type is read as if those fields were not there, and the faults
are kept beside the draft. A field is left out under both of its names and among the settings, so that
leaving it out does not bring up another value for it.
-/

namespace FixedExtract.Definition

/-- A draft with the type faults of the value it was read from. -/
structure Partial (α : Type) where
  draft : α
  faults : List TypeFault
  deriving Repr

namespace Partial

/-- Did the value have no type faults? -/
def isClean (reading : Partial α) : Bool := reading.faults.isEmpty

end Partial

/-- The names at which faults were found, taken one step deep. -/
def faultyNames (found : List TypeFault) : List Text :=
  found.filterMap fun fault => fault.path.head?.map Step.text

/-- The fields that have faults. -/
def faultyFields (fields : List FieldName) (found : List TypeFault) : List FieldName :=
  let names := faultyNames found
  fields.filter fun field => names.elem field.snake || names.elem field.camel

/-- Is the value the name of one of the fields? -/
def namesField (fields : List FieldName) (key : Value) : Bool :=
  fields.any fun field => key.isText field.camel || key.isText field.snake

/-- The settings without those of some fields. -/
def settingsWithout (dropped : List FieldName) (v : Value) : Value :=
  match v.opened with
  | .map settings =>
    .map (settings.filter fun entry =>
      !dropped.any fun field => MappingDraft.liftedFields.elem field && entry.1.isText field.camel)
  | _ => v

/-- The entries without some fields, under either name or among the settings. -/
def withoutFields (dropped : List FieldName) (entries : Entries) : Entries :=
  (entries.filter fun entry => !namesField dropped entry.1).map fun entry =>
    if namesField [MappingDraft.transformationConfigField] entry.1 then
      (entry.1, settingsWithout dropped entry.2)
    else entry

/-- Reads a value whose fields are `fields`, leaving out what has the wrong type. What is not even a map
reads as `blank`. -/
def readPartially (fields : List FieldName) (blank : α) (read : Value → Checked α) (v : Value) :
    Partial α :=
  match read v with
  | .value draft => ⟨draft, []⟩
  | .faults found =>
    match v.opened with
    | .map entries =>
      match read (.map (withoutFields (faultyFields fields found) entries)) with
      | .value draft => ⟨draft, found⟩
      | .faults _ => ⟨blank, found⟩
    | _ => ⟨blank, found⟩

/-- Reads a mapping, leaving out what has the wrong type. -/
def MappingDraft.readPartially : Value → Partial MappingDraft :=
  Definition.readPartially MappingDraft.fields MappingDraft.blank MappingDraft.read

/-- Reads a definition, leaving out what has the wrong type. -/
def ConfigDraft.readPartially : Value → Partial ConfigDraft :=
  Definition.readPartially ConfigDraft.fields ConfigDraft.blank ConfigDraft.read

end FixedExtract.Definition
