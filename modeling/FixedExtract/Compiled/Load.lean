import FixedExtract.Definition.Loading
import FixedExtract.Value.Display
import FixedExtract.Yaml.Reader
/-!
# Reading compiled text

Compiled text is read back into drafts, one for every document that is not null, so that it can be edited
by hand. A layout is loaded from the document of its transaction type, or else from the default one.
-/

namespace FixedExtract.Compiled

open Definition (ConfigDraft LoadFault Submission TypeFault)

/-- Why compiled text cannot be read; documents count from zero. -/
inductive TextFault where
  | yaml (fault : Yaml.Fault)
  | noFields (index : Nat)
  | fieldNotMap (index : Nat) (key : Value)
  | types (index : Nat) (found : List TypeFault)
  deriving Repr

/-- The entries of a field as those of a mapping: its name is the target name, or else its key. -/
def mappingEntries (key : Value) (field : Entries) : Entries :=
  (field.without "fieldName").put Definition.MappingDraft.targetFieldNameField.camel
    ((field.get? "fieldName").getD key)

/-- The mappings of the fields of a document. -/
def mappingsOf (index : Nat) : Entries → Except TextFault (List Value)
  | [] => .ok []
  | (key, value) :: rest =>
    match value.opened with
    | .map field => return .map (mappingEntries key field) :: (← mappingsOf index rest)
    | _ => .error (.fieldNotMap index key)

/-- A document as the definition it was compiled from. -/
def definitionOf (document : Entries) (mappings : List Value) : Entries :=
  [(.text ConfigDraft.sourceSystemField.camel, document.getD "sourceSystem"),
   (.text ConfigDraft.jobNameField.camel, document.getD "fileType"),
   (.text ConfigDraft.transactionTypeField.camel, document.getD "transactionType"),
   (.text ConfigDraft.mappingsField.camel, .list mappings)]

/-- Reads one document. -/
def readDocument (index : Nat) (value : Value) : Except TextFault ConfigDraft :=
  match value.opened with
  | .map document =>
    match (Entries.getD "fields" document).opened with
    | .map fields => do
      let mappings ← mappingsOf index fields
      match ConfigDraft.read (.map (definitionOf document mappings)) with
      | .value draft => return draft
      | .faults found => throw (.types index found)
    | _ => .error (.noFields index)
  | _ => .error (.noFields index)

/-- Reads compiled text. -/
def readText (text : Text) : Except TextFault (List ConfigDraft) :=
  match Yaml.readAll text with
  | .error fault => .error (.yaml fault)
  | .ok values =>
    ((values.filter fun v => !v.isNull).zipIdx).mapM fun (value, index) => readDocument index value

/-! ## Choosing a document -/

/-- The transaction type that is asked for; the default one when none is named. -/
def wantedType (transactionType : Option Text) : Text :=
  match transactionType with
  | none => ConfigDraft.defaultTransactionType
  | some t => if t.isEmpty then ConfigDraft.defaultTransactionType else t

/-- There is neither a document of a transaction type nor a default one. -/
structure NoDocument where
  wanted : Text
  available : List Text
  deriving DecidableEq, Repr

/-- The first document of the wanted type, or else the last of the default type, or else what there is already to fall
back on. -/
def choose (wanted : Text) (fallback : Option ConfigDraft) : List ConfigDraft → Option ConfigDraft
  | [] => fallback
  | draft :: rest =>
    if draft.transactionType = wanted then some draft
    else
      choose wanted
        (if draft.transactionType = ConfigDraft.defaultTransactionType then some draft else fallback) rest

/-- Chooses the document for a transaction type. -/
def select (drafts : List ConfigDraft) (transactionType : Option Text) :
    Except NoDocument ConfigDraft :=
  let wanted := wantedType transactionType
  match choose wanted none drafts with
  | some draft => .ok draft
  | none => .error ⟨wanted, drafts.map ConfigDraft.transactionType⟩

/-- Why a layout cannot be loaded from compiled text. -/
inductive LayoutFault where
  | text (fault : TextFault)
  | selection (fault : NoDocument)
  | load (fault : LoadFault)
  deriving Repr

/-- Loads the layout of a transaction type from compiled text. -/
def loadLayout (maximum : Int) (text : Text) (transactionType : Option Text) :
    Except LayoutFault Layout.Config :=
  match readText text with
  | .error fault => .error (.text fault)
  | .ok drafts =>
    match select drafts transactionType with
    | .error fault => .error (.selection fault)
    | .ok draft => (Definition.load maximum (.draft draft)).mapError .load

end FixedExtract.Compiled
