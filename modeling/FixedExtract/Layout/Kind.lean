import FixedExtract.Text.Case
import FixedExtract.Text.Quoted
/-!
# Kinds of transformation, sides and operations

The closed sets of words that a layout is described with. Each word is read with surrounding white space
dropped and in any case.
-/

namespace FixedExtract.Layout

/-- How a target field gets its value. -/
inductive TransformationKind where
  | source
  | constant
  | composite
  | conditional
  deriving DecidableEq, Repr

namespace TransformationKind

def all : List TransformationKind := [.source, .constant, .composite, .conditional]

def name : TransformationKind → Text
  | .source => "source"
  | .constant => "constant"
  | .composite => "composite"
  | .conditional => "conditional"

/-- The kind that a lower-case word names. -/
def ofName? (word : Text) : Option TransformationKind := all.find? fun kind => kind.name == word

def ofText? (text : Text) : Option TransformationKind := ofName? (Text.lower (Text.strip text))

end TransformationKind

/-- The side on which a short value is filled. -/
inductive PadSide where
  | left
  | right
  deriving DecidableEq, Repr

namespace PadSide

def name : PadSide → Text
  | .left => "left"
  | .right => "right"

def all : List PadSide := [.left, .right]

/-- The side that a lower-case word names. -/
def ofName? (word : Text) : Option PadSide := all.find? fun side => side.name == word

def ofText? (text : Text) : Option PadSide := ofName? (Text.lower (Text.strip text))

end PadSide

/-- How a composite field combines its sources. -/
inductive CompositeOperation where
  | concat
  | sum
  | avg
  | min
  | max
  | upper
  | lower
  | trim
  deriving DecidableEq, Repr

namespace CompositeOperation

def all : List CompositeOperation := [.concat, .sum, .avg, .min, .max, .upper, .lower, .trim]

def name : CompositeOperation → Text
  | .concat => "concat"
  | .sum => "sum"
  | .avg => "avg"
  | .min => "min"
  | .max => "max"
  | .upper => "upper"
  | .lower => "lower"
  | .trim => "trim"

/-- The long forms of some operation names. -/
def longForms : List (Text × Text) :=
  [("average", "avg"), ("minimum", "min"), ("maximum", "max"), ("uppercase", "upper"),
   ("lowercase", "lower")]

/-- The operation name that a written name stands for. -/
def canonicalName (text : Text) : Text :=
  let word := Text.lower (Text.strip text)
  (longForms.lookup word).getD word

/-- The operation that a lower-case word names. -/
def ofName? (word : Text) : Option CompositeOperation := all.find? fun op => op.name == word

/-- The operation that a text names; blank text means concatenation. -/
def ofText? (text : Text) : Option CompositeOperation :=
  if Text.isBlank text then some .concat else ofName? (canonicalName text)

end CompositeOperation

/-! ## Faults in layouts

Why the parts of a layout cannot be put together.
-/

/-- The sets of words that a layout is described with. -/
inductive WordSet where
  | transformationKind
  | padSide
  | compositeOperation
  deriving DecidableEq, Repr

def WordSet.name : WordSet → Text
  | .transformationKind => "TransformationType"
  | .padSide => "PadSide"
  | .compositeOperation => "CompositeOperation"

inductive Fault where
  | blankIf
  | blankSourceField
  | noSources
  | blankSource
  | noConditions
  | positionNotPositive (position : Int)
  | lengthNotPositive (length : Int)
  | padNotSingle
  | unknownWord (set : WordSet) (word : Text)
  deriving DecidableEq, Repr

def Fault.message : Fault → Text
  | .blankIf => "Condition requires a non-blank if expression"
  | .blankSourceField => "SourceTransform requires a source field"
  | .noSources => "CompositeTransform requires at least one source"
  | .blankSource => "CompositeTransform sources cannot be blank"
  | .noConditions => "ConditionalTransform requires at least one condition"
  | .positionNotPositive position => "target_position must be positive: " ++ Text.ofInt position
  | .lengthNotPositive length => "length must be positive: " ++ Text.ofInt length
  | .padNotSingle => "pad_char must be a single character"
  | .unknownWord set word => Text.quoted word ++ " is not a valid " ++ set.name

/-! ### Reading words -/

/-- The kind that a text names. -/
def readKind (text : Text) : Except Fault TransformationKind :=
  match TransformationKind.ofText? text with
  | some kind => .ok kind
  | none => .error (.unknownWord .transformationKind (Text.lower (Text.strip text)))

/-- The side that a text names; no text means the right side. -/
def readPadSide : Option Text → Except Fault PadSide
  | none => .ok .right
  | some text =>
    match PadSide.ofText? text with
    | some side => .ok side
    | none => .error (.unknownWord .padSide (Text.lower (Text.strip text)))

/-- The operation that a text names; no text or a blank one means concatenation. -/
def readOperation : Option Text → Except Fault CompositeOperation
  | none => .ok .concat
  | some text =>
    match CompositeOperation.ofText? text with
    | some op => .ok op
    | none => .error (.unknownWord .compositeOperation (CompositeOperation.canonicalName text))

end FixedExtract.Layout
