import FixedExtract.Text.Integer
import FixedExtract.Value.Display
/-!
# Faults in YAML

Either the text is not well-formed, or it is and one of its scalars has no value.
-/

namespace FixedExtract.Yaml

/-- Which part of a timestamp does not exist. -/
inductive TimestampFault where
  | year (year : Nat)
  | month
  | day
  | hour
  | minute
  | second
  | offset (microseconds : Int)
  deriving DecidableEq, Repr

inductive Fault where
  | malformed
  | integer (fault : Text.IntegerFault)
  | float (text : Text)
  | emptyNumber
  | hugeNumber
  | flag
  | timestamp
  | calendar (fault : TimestampFault)
  | character (code : Nat)
  deriving DecidableEq, Repr

/-! ## Messages for scalars without a value

The wording for the faults that concern one scalar. Some of them have none.
-/

def TimestampFault.message : TimestampFault → Text
  | .year n => "year " ++ Text.ofNat n ++ " is out of range"
  | .month => "month must be in 1..12"
  | .day => "day is out of range for month"
  | .hour => "hour must be in 0..23"
  | .minute => "minute must be in 0..59"
  | .second => "second must be in 0..59"
  | .offset microseconds =>
    "offset must be a timedelta strictly between -timedelta(hours=24) and timedelta(hours=24), not " ++
      Value.durationText microseconds ++ "."

/-- The largest code point that is a number of one machine word. -/
def maxCode : Nat := 0x7fffffff

def Fault.message? : Fault → Option Text
  | .integer fault => some fault.message
  | .float text => some ("could not convert string to float: " ++ Text.quoted text)
  | .calendar fault => some fault.message
  | .character code => if code ≤ maxCode then some "chr() arg not in range(0x110000)" else none
  | _ => none

end FixedExtract.Yaml
