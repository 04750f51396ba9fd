import FixedExtract.Double.Text
import FixedExtract.Text.Bytes
import FixedExtract.Text.Case
import FixedExtract.Value.Basic
import FixedExtract.Yaml.Fault
import FixedExtract.Yaml.Tag
/-!
# Values of scalars

What a scalar of each type stands for. A tag may be given to any text, so that every type has texts that
have no value.
-/

namespace FixedExtract.Yaml

def readInteger (base : Nat) (text : Text) : Except Fault Int :=
  (Text.readInteger base text).mapError .integer

/-- The value of parts to base sixty, the least first. -/
def baseSixty (parts : List Int) : Int := parts.foldr (fun part value => part + 60 * value) 0

/-- The value of an unsigned integer. -/
def unsignedInteger (text : Text) : Except Fault Int :=
  match text with
  | [] => .error .emptyNumber
  | ['0'] => .ok 0
  | '0' :: 'b' :: digits => readInteger 2 digits
  | '0' :: 'x' :: digits => readInteger 16 digits
  | '0' :: _ => readInteger 8 text
  | _ =>
    if text.elem ':' then do
      let parts ← (Text.splitOn ':' text).mapM (readInteger 10)
      return baseSixty parts.reverse
    else readInteger 10 text

/-- A sign and the text behind it; there has to be some text. -/
def signed (text : Text) : Except Fault (Bool × Text) :=
  match text with
  | [] => .error .emptyNumber
  | '-' :: rest => .ok (true, rest)
  | '+' :: rest => .ok (false, rest)
  | rest => .ok (false, rest)

/-- The value of an integer; underscores do not count. -/
def integerValue (text : Text) : Except Fault Int := do
  let (negative, digits) ← signed (text.filter (· ≠ '_'))
  let size ← unsignedInteger digits
  return if negative then -size else size

def readDouble (text : Text) : Except Fault Double :=
  match Double.read? text with
  | some x => .ok x
  | none => .error (.float text)

/-- The sum of parts to base sixty, the least first, the first of them counting `scale`. -/
def baseSixtySum (scale : Nat) (sum : Double) : List Double → Except Fault Double
  | [] => .ok sum
  | part :: rest =>
    let weight := Double.ofInt scale
    if weight.isFinite then baseSixtySum (scale * 60) (sum.add (part.mul weight)) rest
    else .error .hugeNumber

/-- The value of an unsigned number in lower case. -/
def unsignedFloat (text : Text) : Except Fault Double :=
  if text = (".inf" : Text) then .ok (.infinite false)
  else if text = (".nan" : Text) then .ok .nan
  else if text.elem ':' then do
    let parts ← (Text.splitOn ':' text).mapM readDouble
    baseSixtySum 1 (.ofInt 0) parts.reverse
  else readDouble text

/-- The value of a number with a fraction; underscores do not count. -/
def floatValue (text : Text) : Except Fault Double := do
  let (negative, digits) ← signed (Text.lower (text.filter (· ≠ '_')))
  let size ← unsignedFloat digits
  return if negative then size.neg else size

def yesWords : List Text := ["yes", "true", "on"]

def noWords : List Text := ["no", "false", "off"]

def flagValue (text : Text) : Except Fault Bool :=
  let word := Text.lower text
  if yesWords.elem word then .ok true
  else if noWords.elem word then .ok false
  else .error .flag

def digitsValue (digits : Text) : Nat :=
  Text.valueOfDigits 10 (digits.map Text.asciiDigitValue)

/-- Checks that a date exists. -/
def checkDate (d : Date) : Except Fault Date :=
  if d.year = 0 then .error (.calendar (.year d.year))
  else if d.month = 0 ∨ d.month > 12 then .error (.calendar .month)
  else if d.isReal then .ok d
  else .error (.calendar .day)

/-- Checks that a time of day exists. -/
def checkTime (t : TimeOfDay) : Except Fault TimeOfDay :=
  if t.hour ≥ 24 then .error (.calendar .hour)
  else if t.minute ≥ 60 then .error (.calendar .minute)
  else if t.second ≥ 60 then .error (.calendar .second)
  else .ok t

/-- The microseconds of a day. -/
def dayLength : Int := 86400000000

/-- The offset that a zone stands for, which is less than a day. -/
def zoneOffset : WrittenZone → Except Fault (Option Int)
  | .none => .ok none
  | .universal => .ok (some 0)
  | .offset negative hour minute =>
    let size : Int := (digitsValue hour * 60 + digitsValue minute : Nat) * 60000000
    let offset := if negative then -size else size
    if size < dayLength then .ok (some offset) else .error (.calendar (.offset offset))

/-- The microseconds that the digits of a fraction stand for, of which six count. -/
def microseconds (fraction : Text) : Nat :=
  let kept := fraction.take 6
  digitsValue kept * Nat.pow 10 (6 - kept.length)

def timestampValue (text : Text) : Except Fault Value := do
  match writtenTimestamp? (withoutLineEnd text) with
  | none => throw .timestamp
  | some t =>
    let date : Date := ⟨digitsValue t.year, digitsValue t.month, digitsValue t.day⟩
    match t.time with
    | none => return .date (← checkDate date)
    | some (hour, minute, second) =>
      let offset ← zoneOffset t.zone
      let date ← checkDate date
      let time ← checkTime
        ⟨digitsValue hour, digitsValue minute, digitsValue second, microseconds t.fraction⟩
      return .moment ⟨date, time, offset⟩

def binaryValue (text : Text) : Except Fault Value :=
  if text.all fun c => c.toNat < 128 then
    match Text.base64? text with
    | some bytes => .ok (.bytes bytes)
    | none => .error .malformed
  else .error .malformed

/-- The value of a scalar. -/
def scalarValue (text : Text) : Tag → Except Fault Value
  | .null => .ok .null
  | .bool => (flagValue text).map .bool
  | .int => (integerValue text).map .int
  | .float => (floatValue text).map .float
  | .binary => binaryValue text
  | .timestamp => timestampValue text
  | .text => .ok (.text text)
  | _ => .error .malformed

end FixedExtract.Yaml
