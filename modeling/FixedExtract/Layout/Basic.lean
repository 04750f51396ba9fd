import FixedExtract.Calendar.Date
import FixedExtract.Layout.Kind
/-!
# Layouts

A layout lists the fields of a fixed-width line. The types leave no room for an incomplete layout: names
that are looked up are not blank, a composite has sources, a conditional has conditions, and positions
and lengths are positive. `make` functions build the types from unchecked parts.
-/

namespace FixedExtract.Layout

/-- A text that is not blank. -/
structure NonBlank where
  text : Text
  nonBlank : Text.isBlank text = false
  deriving DecidableEq, Repr

namespace NonBlank

def make? (text : Text) : Option NonBlank :=
  if h : Text.isBlank text = false then some ⟨text, h⟩ else none

end NonBlank

/-! ## Conditions -/

/-- The value of a chain when its expression is the first to hold. -/
structure ElseIf where
  condition : Text
  value : Text
  deriving DecidableEq, Repr

/-- An if, else-if, else chain. -/
structure Condition where
  ifExpr : NonBlank
  value : Text
  elseIfs : List ElseIf
  elseExpr : Option Text
  deriving DecidableEq, Repr

namespace Condition

def make (ifExpr value : Text) (elseIfs : List ElseIf) (elseExpr : Option Text) :
    Except Fault Condition :=
  match NonBlank.make? ifExpr with
  | some ifExpr => .ok ⟨ifExpr, value, elseIfs, elseExpr⟩
  | none => .error .blankIf

/-- The expressions with their values in the order they are tried. -/
def branches (c : Condition) : List (Text × Text) :=
  (c.ifExpr.text, c.value) :: c.elseIfs.map fun branch => (branch.condition, branch.value)

/-- The else expression, when it is there and not blank. -/
def otherwise? (c : Condition) : Option Text := c.elseExpr.filter fun text => !Text.isBlank text

end Condition

/-! ## Transformations -/

/-- How a target field gets its value from a record. -/
inductive Transformation where
  | source (field : NonBlank)
  | constant (value : Option Text)
  | composite (sources : List NonBlank) (delimiter : Text) (operation : CompositeOperation)
      (nonEmpty : sources ≠ [])
  | conditional (conditions : List Condition) (nonEmpty : conditions ≠ [])
  deriving DecidableEq, Repr

namespace Transformation

def kind : Transformation → TransformationKind
  | .source _ => .source
  | .constant _ => .constant
  | .composite .. => .composite
  | .conditional .. => .conditional

def makeSource (field : Text) : Except Fault Transformation :=
  match NonBlank.make? field with
  | some field => .ok (.source field)
  | none => .error .blankSourceField

def makeComposite (sources : List Text) (delimiter : Text) (operation : CompositeOperation) :
    Except Fault Transformation :=
  if sources.isEmpty then .error .noSources
  else
    match sources.mapM NonBlank.make? with
    | none => .error .blankSource
    | some sources =>
      if h : sources ≠ [] then .ok (.composite sources delimiter operation h)
      else .error .noSources

def makeConditional (conditions : List Condition) : Except Fault Transformation :=
  if h : conditions ≠ [] then .ok (.conditional conditions h) else .error .noConditions

end Transformation

/-! ## Mappings -/

/-- One field of a line. -/
structure Mapping where
  name : Text
  position : Nat
  length : Nat
  transformation : Transformation
  pad : PadSide
  padChar : Char
  dataType : Text
  defaultValue : Option Text
  position_pos : 0 < position
  length_pos : 0 < length
  deriving DecidableEq, Repr

namespace Mapping

def make (name : Text) (position length : Int) (transformation : Transformation) (pad : PadSide)
    (padChar dataType : Text) (defaultValue : Option Text) : Except Fault Mapping :=
  if hp : 0 < position then
    if hl : 0 < length then
      match padChar with
      | [c] => .ok ⟨name, position.toNat, length.toNat, transformation, pad, c, dataType,
          defaultValue, by omega, by omega⟩
      | _ => .error .padNotSingle
    else .error (.lengthNotPositive length)
  else .error (.positionNotPositive position)

end Mapping

/-- The layout of the lines of one job and transaction type. -/
structure Config where
  sourceSystem : Text
  jobName : Text
  transactionType : Text
  mappings : List Mapping
  version : Int
  lastModified : Option Moment
  deriving DecidableEq, Repr

namespace Config

/-- The mappings in the order of their positions, those of one position as they were declared. -/
def ordered (config : Config) : List Mapping :=
  config.mappings.mergeSort fun a b => decide (a.position ≤ b.position)

/-- The width of a line. -/
def recordLength (config : Config) : Nat := (config.mappings.map Mapping.length).foldr (· + ·) 0

/-- The first mapping with a name. -/
def mapping? (config : Config) (name : Text) : Option Mapping :=
  config.mappings.find? fun m => m.name == name

end Config
end FixedExtract.Layout
