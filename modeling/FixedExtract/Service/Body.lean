import FixedExtract.Definition.Draft
import FixedExtract.Json.Encoding
import FixedExtract.Json.Reader
import FixedExtract.Validation.Record
/-!
# Bodies of requests

A body is a JSON document, and what a request needs is read from it with all faults collected. An empty body is
the same as none, which is not the same as one that holds null.
-/

namespace FixedExtract.Service

open Definition (Checked FieldName TypeFault orNull readList readText readInteger)

/-- Why a body cannot be used. -/
inductive BodyFault where
  | absent
  | notJson (position : Nat)
  | unreadable
  | faults (document : Value) (found : List TypeFault)
  deriving Repr

/-- The document in a body. -/
def documentOf (body : Text) : Except BodyFault Value :=
  if body.isEmpty then .error .absent
  else
    match Json.decoded? body with
    | none => .error .unreadable
    | some document =>
      match Json.read document with
      | .ok v => .ok v
      | .error ⟨.tooManyDigits _, _⟩ => .error .unreadable
      | .error ⟨_, position⟩ => .error (.notJson position)

/-- Reads what a request needs. -/
def readBody (read : Value → Checked α) (body : Text) : Except BodyFault α :=
  match documentOf body with
  | .error fault => .error fault
  | .ok document =>
    match read document with
    | .value a => .ok a
    | .faults found => .error (.faults document found)

/-! ## Parts of bodies -/

/-- A field with one name. -/
def plainField (name : Text) : FieldName := ⟨name, name⟩

/-- Reads any map. -/
def readMap : Value → Checked Entries
  | .map entries => .value entries
  | _ => .fail .notMap

/-- Reads the entries of an object that has fields of its own. -/
def readObject (read : Entries → Checked α) : Value → Checked α
  | .map entries => read entries
  | _ => .fail .notObject

/-- Reads the values of fields. -/
def readFieldValues : Entries → Checked FieldValues
  | [] => .value []
  | (key, v) :: rest =>
    ((orNull readText v).under (.key key.display)).map (fun text more => (key.display, text) :: more)
      |>.apply (readFieldValues rest)

/-- Reads a record: a map in which every value is text or null. -/
def readRecord : Value → Checked FieldValues
  | .map entries => readFieldValues entries
  | _ => .fail .notMap

/-- Reads a list of which every item is read alike. -/
def readEach (read : Value → Checked α) (v : Value) : Checked (List α) :=
  match readList v with
  | .value items => Checked.items read items
  | .faults found => .faults found

/-- Reads a number that is not negative. -/
def readCount (v : Value) : Checked Int :=
  match readInteger v with
  | .value n => if n < 0 then .fail .negative else .value n
  | .faults found => .faults found

/-! ## Requests -/

/-- The definitions to compile into one text. -/
def readDefinitions : Value → Checked (List Entries) :=
  readObject fun entries => (plainField "definitions").require entries (readEach readMap)

/-- A definition and the records to render by it. -/
structure PreviewRequest where
  definition : Entries
  records : List FieldValues
  deriving Repr

def PreviewRequest.read : Value → Checked PreviewRequest :=
  readObject fun entries =>
    PreviewRequest.mk
      <$> (plainField "definition").require entries readMap
      <*> (plainField "records").read entries [] (readEach readRecord)

/-- A record and the rules to check it against. -/
structure RecordRequest where
  record : FieldValues
  rules : List Entries
  threshold : Option Int
  deriving Repr

def RecordRequest.read : Value → Checked RecordRequest :=
  readObject fun entries =>
    RecordRequest.mk
      <$> (plainField "record").require entries readRecord
      <*> (plainField "rules").read entries [] (readEach readMap)
      <*> (plainField "error_threshold").read entries none (orNull readCount)

/-- Records and the rules to check them against. -/
structure BatchRequest where
  records : List FieldValues
  rules : List Entries
  threshold : Option Int
  batchId : Option Text
  deriving Repr

def BatchRequest.read : Value → Checked BatchRequest :=
  readObject fun entries =>
    BatchRequest.mk
      <$> (plainField "records").require entries (readEach readRecord)
      <*> (plainField "rules").read entries [] (readEach readMap)
      <*> (plainField "error_threshold").read entries none (orNull readCount)
      <*> (plainField "batch_id").read entries none (orNull readText)

end FixedExtract.Service
