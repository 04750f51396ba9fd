import FixedExtract.Decimal.Arithmetic
import FixedExtract.Decimal.Basic
import FixedExtract.Layout.Basic
import FixedExtract.Record
/-!
# Composite fields

A composite field combines several fields of a record. Sums and averages take a field that is missing or
no decimal for zero, and the average divides by the number of sources; minimum and maximum leave such
fields out. The remaining operations read the first source alone.
-/

namespace FixedExtract.Layout

/-- Decimal arithmetic went beyond its largest exponent. -/
inductive Overflow where
  | overflow
  deriving DecidableEq, Repr

/-- The text of a decimal result. -/
def decimalText (result : Option Decimal) : Except Overflow Text :=
  match result.bind (Decimal.shortPlain? Decimal.working) with
  | some text => .ok text
  | none => .error .overflow

/-- The decimals among the texts of some fields. -/
def decimals (values : List (Option Text)) : List Decimal :=
  values.filterMap fun value => value.bind Decimal.read?

/-- The extreme that `pick` takes of the decimals, with a text for when there are none. -/
def extreme (pick : Decimal → List Decimal → Decimal) (values : List (Option Text))
    (defaultValue : Option Text) : Except Overflow Text :=
  match decimals values with
  | [] => .ok (defaultValue.getD ['0'])
  | first :: rest => decimalText (some (pick first rest))

/-- The first value changed by `change`, with a text for when it is missing. -/
def firstChanged (change : Text → Text) (values : List (Option Text)) (defaultValue : Option Text) :
    Text :=
  match values with
  | some first :: _ => change first
  | _ => defaultValue.getD []

/-- Combines the texts of some fields. -/
def combineTexts (values : List (Option Text)) (delimiter : Text) (defaultValue : Option Text) :
    CompositeOperation → Except Overflow Text
  | .concat => .ok (Text.join delimiter (values.map fun value => value.getD []))
  | .sum => decimalText (Decimal.sum? Decimal.working (decimals values))
  | .avg =>
    decimalText ((Decimal.sum? Decimal.working (decimals values)).bind fun total =>
      Decimal.divNat? Decimal.working total values.length)
  | .min => extreme Decimal.minimum values defaultValue
  | .max => extreme Decimal.maximum values defaultValue
  | .upper => .ok (firstChanged Text.upper values defaultValue)
  | .lower => .ok (firstChanged Text.lower values defaultValue)
  | .trim => .ok (firstChanged Text.strip values defaultValue)

/-- Combines fields of a record. -/
def combine (sources : List NonBlank) (delimiter : Text) (operation : CompositeOperation)
    (record : Record) (defaultValue : Option Text) : Except Overflow Text :=
  combineTexts (sources.map fun source => record.text? source.text) delimiter defaultValue operation

end FixedExtract.Layout
