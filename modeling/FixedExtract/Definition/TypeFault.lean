import FixedExtract.Text.Integer
/-!
# Type faults

Reading a definition collects every place where a value has the wrong type. A place is the path to it
through keys and list indices; what is wrong there has a code and a wording.
-/

namespace FixedExtract.Definition

/-- One step of the path to a value. -/
inductive Step where
  | key (name : Text)
  | index (n : Nat)
  deriving DecidableEq, Repr

def Step.text : Step → Text
  | .key name => name
  | .index n => Text.ofNat n

/-- What is wrong with a value. -/
inductive Problem where
  | notText
  | notUnicode
  | notInteger
  | unreadableInteger
  | integerTooLong
  | fractional
  | notFinite
  | notBoolean
  | unreadableBoolean
  | notList
  | notMap
  | notModel (model : Text)
  | notObject
  | missing
  | negative
  | unreadableJson
  | recursive
  | unwritable
  deriving DecidableEq, Repr

namespace Problem

def code : Problem → Text
  | .notText => "string_type"
  | .notUnicode => "string_unicode"
  | .notInteger => "int_type"
  | .unreadableInteger => "int_parsing"
  | .integerTooLong => "int_parsing_size"
  | .fractional => "int_from_float"
  | .notFinite => "finite_number"
  | .notBoolean => "bool_type"
  | .unreadableBoolean => "bool_parsing"
  | .notList => "list_type"
  | .notMap => "dict_type"
  | .notModel _ => "model_type"
  | .notObject => "model_attributes_type"
  | .missing => "missing"
  | .negative => "greater_than_equal"
  | .unreadableJson => "json_invalid"
  | .recursive => "recursion_loop"
  | .unwritable => "value_error"

def message : Problem → Text
  | .notText => "Input should be a valid string"
  | .notUnicode => "Input should be a valid string, unable to parse raw data as a unicode string"
  | .notInteger => "Input should be a valid integer"
  | .unreadableInteger => "Input should be a valid integer, unable to parse string as an integer"
  | .integerTooLong => "Unable to parse input string as an integer, exceeded maximum size"
  | .fractional => "Input should be a valid integer, got a number with a fractional part"
  | .notFinite => "Input should be a finite number"
  | .notBoolean => "Input should be a valid boolean"
  | .unreadableBoolean => "Input should be a valid boolean, unable to interpret input"
  | .notList => "Input should be a valid list"
  | .notMap => "Input should be a valid dictionary"
  | .notModel model => "Input should be a valid dictionary or instance of " ++ model
  | .notObject => "Input should be a valid dictionary or object to extract fields from"
  | .missing => "Field required"
  | .negative => "Input should be greater than or equal to 0"
  | .unreadableJson => "JSON decode error"
  | .recursive => "Recursion error - cyclic reference detected"
  | .unwritable => "Value error, " ++ Text.unwritableMessage

end Problem

structure TypeFault where
  path : List Step
  problem : Problem
  deriving DecidableEq, Repr

/-- The fault as seen from one step further out. -/
def TypeFault.under (step : Step) (fault : TypeFault) : TypeFault :=
  { fault with path := step :: fault.path }

/-! ## Collecting faults -/

/-- A value that was read, or the faults found while reading it. Independent readings are combined so
that the faults of all of them are kept, in order. -/
inductive Checked (α : Type) where
  | value (a : α)
  | faults (found : List TypeFault)
  deriving Repr

namespace Checked

def map (f : α → β) : Checked α → Checked β
  | .value a => .value (f a)
  | .faults found => .faults found

def apply : Checked (α → β) → Checked α → Checked β
  | .value f, .value a => .value (f a)
  | .value _, .faults found => .faults found
  | .faults found, .value _ => .faults found
  | .faults found, .faults more => .faults (found ++ more)

instance : Functor Checked where
  map := Checked.map

instance : Seq Checked where
  seq f a := Checked.apply f (a ())

/-- A reading that failed for one reason at its own place. -/
def fail (problem : Problem) : Checked α := .faults [⟨[], problem⟩]

/-- Moves the faults of a reading one step further out. -/
def under (step : Step) : Checked α → Checked α
  | .value a => .value a
  | .faults found => .faults (found.map (TypeFault.under step))

/-- Reads every item of a list, counting from `index`. -/
def itemsFrom (read : β → Checked α) (index : Nat) : List β → Checked (List α)
  | [] => .value []
  | item :: rest =>
    ((read item).under (.index index)).map List.cons |>.apply (itemsFrom read (index + 1) rest)

/-- Reads every item of a list. -/
def items (read : β → Checked α) (list : List β) : Checked (List α) := itemsFrom read 0 list

/-- The reading as a result. -/
def toExcept : Checked α → Except (List TypeFault) α
  | .value a => .ok a
  | .faults found => .error found

end Checked
end FixedExtract.Definition
