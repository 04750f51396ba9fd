import FixedExtract.Layout.Branch
import FixedExtract.Layout.Composite
/-!
# Rendering lines

A field is derived from the record by its transformation and then fitted to its length; a line is the
fitted fields in the order of their positions. A malformed expression empties its field and leaves a
warning. Only decimal overflow and a length that no text can have stop a rendering.
-/

namespace FixedExtract.Layout

/-! ## Fitting -/

/-- Fits a text to a length: a longer one is cut at its end, a shorter one is filled on one side. -/
def position (text : Text) (length : Nat) (pad : PadSide) (padChar : Char) : Text :=
  let filling := List.replicate (length - text.length) padChar
  match pad with
  | .left => filling ++ text.take length
  | .right => text.take length ++ filling

/-- Why a text cannot be filled to a length: no position has so large a number, or no store holds so much. -/
inductive WidthFault where
  | unaddressable
  | unstorable
  deriving DecidableEq, Repr

/-- The last position that has a number. -/
def lastAddress : Nat := 9223372036854775807

/-- The longest text that a store holds. -/
def maxStored : Nat := 1099511627776

/-- The fault of filling a text of `actual` characters to a length. -/
def widthFault? (actual length : Nat) : Option WidthFault :=
  if length ≤ actual then none
  else if lastAddress < length then some .unaddressable
  else if maxStored < length then some .unstorable
  else none

inductive FitFault where
  | width (fault : WidthFault)
  | padNotSingle
  deriving DecidableEq, Repr

/-- Fits a text to a length that is not known to be one, with a filling that is not known to be a single
character. A negative length is what is cut off at the end. -/
def fit (text : Text) (length : Int) (pad : PadSide) (filling : Text) : Except FitFault Text :=
  if length < text.length then
    .ok (text.take (if 0 ≤ length then length.toNat else text.length - length.natAbs))
  else
    match widthFault? text.length length.toNat, filling with
    | none, [c] => .ok (position text length.toNat pad c)
    | some .unstorable, [_] => .error (.width .unstorable)
    | some .unaddressable, _ => .error (.width .unaddressable)
    | _, _ => .error .padNotSingle

/-! ## Deriving values -/

/-- Why a value cannot be derived. -/
inductive RenderFault where
  | expression (fault : Expression.Fault)
  | overflow
  deriving DecidableEq, Repr

/-- A constant's value, unless it is missing or blank. -/
def constantText? (value : Option Text) : Option Text := value.filter fun text => !Text.isBlank text

/-- Derives the value of a field, not yet fitted. -/
def render (m : Mapping) (record : Record) : Except RenderFault Text :=
  match m.transformation with
  | .source field => .ok ((record.text? field.text).getD (m.defaultValue.getD []))
  | .constant value => .ok ((constantText? value).getD (m.defaultValue.getD []))
  | .composite sources delimiter operation _ =>
    match combine sources delimiter operation record m.defaultValue with
    | .ok text => .ok text
    | .error .overflow => .error .overflow
  | .conditional conditions _ =>
    match choose conditions record m.defaultValue with
    | .ok choice => .ok choice.value
    | .error fault => .error (.expression fault)

/-! ## Fields -/

inductive Warning where
  | invalidCondition (field : Text) (fault : Expression.Fault)
  | sourceMissing (source field : Text)
  | truncated (field : Text) (actual kept : Nat)
  deriving DecidableEq, Repr

def Warning.message : Warning → Text
  | .invalidCondition field fault =>
    "Invalid condition for field " ++ field ++ ": " ++ fault.message
  | .sourceMissing source field =>
    "Source field " ++ source ++ " not present for field " ++ field
  | .truncated field actual kept =>
    "Value for field " ++ field ++ " truncated from " ++ Text.ofNat actual ++ " to " ++
      Text.ofNat kept ++ " characters"

/-- A fitted field, with the value before fitting and what is worth reporting. -/
structure RenderedField where
  name : Text
  value : Text
  raw : Text
  truncated : Bool
  warnings : List Warning
  deriving DecidableEq, Repr

/-- The warning for a source field that the record does not have and no default replaces. -/
def sourceWarning? (m : Mapping) (record : Record) : Option Warning :=
  match m.transformation, m.defaultValue with
  | .source field, none =>
    if record.has field.text then none else some (.sourceMissing field.text m.name)
  | _, _ => none

/-- A derived value as that of its field, fitted to it. -/
def fitField (m : Mapping) (record : Record) (raw : Text) (warnings : List Warning) :
    RenderedField :=
  let truncated := decide (raw.length > m.length)
  { name := m.name
    value := position raw m.length m.pad m.padChar
    raw := raw
    truncated := truncated
    warnings := warnings ++ (sourceWarning? m record).toList ++
      (if truncated then [.truncated m.name raw.length m.length] else []) }

/-- What stops a rendering. -/
inductive Stop where
  | overflow
  | width (fault : WidthFault)
  deriving DecidableEq, Repr

/-- Fits a derived value to its field, unless the field is too wide for any text. -/
def fitField? (m : Mapping) (record : Record) (raw : Text) (warnings : List Warning) :
    Except Stop RenderedField :=
  match widthFault? raw.length m.length with
  | some fault => .error (.width fault)
  | none => .ok (fitField m record raw warnings)

/-- Renders one field. -/
def renderField (m : Mapping) (record : Record) : Except Stop RenderedField :=
  match render m record with
  | .ok raw => fitField? m record raw []
  | .error (.expression fault) => fitField? m record [] [.invalidCondition m.name fault]
  | .error .overflow => .error .overflow

/-! ## Lines -/

/-- The line of one record; records are numbered from one. -/
structure RenderedLine where
  number : Nat
  fields : List RenderedField
  deriving DecidableEq, Repr

namespace RenderedLine

def text (line : RenderedLine) : Text := line.fields.flatMap RenderedField.value

def warnings (line : RenderedLine) : List Warning := line.fields.flatMap RenderedField.warnings

end RenderedLine

/-- Renders one record. -/
def renderLine (config : Config) (record : Record) (number : Nat) : Except Stop RenderedLine :=
  (config.ordered.mapM fun m => renderField m record).map fun fields => ⟨number, fields⟩

/-- Renders records, numbered from `number` on. -/
def renderLinesFrom (config : Config) (number : Nat) :
    List Record → Except Stop (List RenderedLine)
  | [] => .ok []
  | record :: rest => do
    let line ← renderLine config record number
    let lines ← renderLinesFrom config (number + 1) rest
    return line :: lines

/-- Renders records, one line each. -/
def renderLines (config : Config) (records : List Record) : Except Stop (List RenderedLine) :=
  renderLinesFrom config 1 records

/-- The lines of a preview, divided by line breaks. -/
def previewText (lines : List RenderedLine) : Text :=
  Text.join ['\n'] (lines.map RenderedLine.text)

end FixedExtract.Layout
