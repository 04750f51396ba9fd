import FixedExtract.Definition.TypeFault
import FixedExtract.Text.Bytes
import FixedExtract.Text.Case
import FixedExtract.Value.Display
/-!
# Reading scalars

Text is taken as it is. An integer may be written as text or as a number without a fraction; a flag may
be written in several words. Fields that hold free text take any other value in its written form.
-/

namespace FixedExtract.Definition

/-! ## Text -/

def readText : Value → Checked Text
  | .text t => .value t
  | .bytes bs =>
    match Text.ofBytes? bs with
    | some t => .value t
    | none => .fail .notUnicode
  | _ => .fail .notText

/-- Null, or what `read` makes of the value. -/
def orNull (read : Value → Checked α) : Value → Checked (Option α)
  | .null => .value none
  | v => (read v).map some

/-- Text, or what is neither null nor text in its written form. -/
def readWritten : Value → Checked Text
  | .null => .fail .notText
  | .text t => .value t
  | v => if v.isWritable then .value v.display else .fail .unwritable

/-- The value with null standing for an empty list. -/
def nullAsEmpty : Value → Value
  | .null => .list []
  | v => v

/-! ## Integers -/

/-- The most characters the sign and the digits of an integer may take. -/
def maxIntegerLength : Nat := 4300

/-- An integer in its plain form: digits without a zero in front, perhaps after a minus sign. -/
def plainInteger? (text : Text) : Option (Bool × Text) :=
  let (negative, digits) := match text with
    | '-' :: rest => (true, rest)
    | rest => (false, rest)
  if digits.isEmpty || !digits.all Text.isAsciiDigit then none
  else if digits.length > 1 ∧ digits.head? = some '0' then none
  else some (negative, digits)

/-- The text starts with a plain integer of more than `maxIntegerLength` characters, whatever follows it. -/
def startsTooLong (text : Text) : Bool :=
  let (sign, rest) := match text with
    | '-' :: rest => (1, rest)
    | rest => (0, rest)
  rest.head? != some '0' && Nat.blt maxIntegerLength (sign + (rest.takeWhile Text.isAsciiDigit).length)

/-- Drops the zeros, and underscores between them, in front of a number that starts with a zero. A minus
sign may follow the zeros. One character is kept when nothing else follows, and one before a point. -/
def dropLeadingZeros? : Text → Option Text
  | '0' :: rest =>
    let zeros := rest.takeWhile fun c => c = '0' || c = '_'
    match rest.dropWhile fun c => c = '0' || c = '_' with
    | [] => some ((zeros.getLast?.getD '0') :: [])
    | '.' :: after => some ((zeros.getLast?.getD '0') :: '.' :: after)
    | c :: after => if Text.isAsciiDigit c ∨ c = '-' then some (c :: after) else none
  | c :: rest => if Text.isAsciiDigit c ∨ c = '-' then some (c :: rest) else none
  | [] => none

/-- Drops the zeros in front of a number and those after its minus sign. -/
def dropZeros? : Text → Option Text
  | '-' :: rest => (dropLeadingZeros? rest).map ('-' :: ·)
  | text => dropLeadingZeros? text

/-- Drops a fraction of one zero or more. -/
def dropZeroFraction (text : Text) : Text :=
  match text.dropWhile (· ≠ '.') with
  | _ :: fraction =>
    if !fraction.isEmpty && fraction.all (· = '0') then text.takeWhile (· ≠ '.') else text
  | [] => text

/-- Drops single underscores inside a number. -/
def dropUnderscores (text : Text) : Text :=
  if text.head? = some '_' ∨ text.getLast? = some '_' ∨ Text.includes "__" text then text
  else text.filter (· ≠ '_')

/-- The text without the white space around it, a plus sign, zeros in front, a fraction of zeros, and
underscores between digits: the plain form of an integer that is written with any of these. -/
def cleanedInteger? (text : Text) : Option Text :=
  let trimmed := Text.trimBy Text.isNumeralSpace text
  let unsigned? := match trimmed with
    | '+' :: '-' :: _ => none
    | '+' :: rest => some rest
    | rest => some rest
  (unsigned?.bind dropZeros?).map fun digits => dropUnderscores (dropZeroFraction digits)

def integerOf : Bool × Text → Int
  | (negative, digits) =>
    let size := Text.valueOfDigits 10 (digits.map Text.asciiDigitValue)
    if negative then -(size : Int) else size

/-- Reads an integer in its plain form; `otherwise` answers for text that does not have it. -/
def readPlainInteger (text : Text) (otherwise : Checked Int) : Checked Int :=
  if startsTooLong text then .fail .integerTooLong
  else
    match plainInteger? text with
    | some plain => .value (integerOf plain)
    | none => otherwise

/-- Reads an integer from text: as it stands, else cleaned. -/
def readIntegerText (text : Text) : Checked Int :=
  readPlainInteger text
    (match cleanedInteger? text with
    | some cleaned => readPlainInteger cleaned (.fail .unreadableInteger)
    | none => .fail .unreadableInteger)

/-- The range of the integers that a number with a fraction may be equal to. -/
def floatIntegerBound : Int := 9223372036854775808

def readInteger : Value → Checked Int
  | .int n => .value n
  | .bool b => .value (if b then 1 else 0)
  | .float x =>
    if !x.isFinite then .fail .notFinite
    else
      match x.toInt? with
      | none => .fail .fractional
      | some n =>
        if -floatIntegerBound < n ∧ n < floatIntegerBound then .value n else .fail .integerTooLong
  | .text t => readIntegerText t
  | .bytes bs =>
    match Text.ofBytes? bs with
    | some t => readIntegerText t
    | none => .fail .unreadableInteger
  | _ => .fail .notInteger

/-! ## Flags -/

/-- The words for yes and no that are read with white space around them. -/
def yesWords : List Text := ["y", "yes", "true", "1"]

def noWords : List Text := ["n", "no", "false", "0"]

/-- Words for yes and no that must stand alone. -/
def otherYesWords : List Text := ["t", "on"]

def otherNoWords : List Text := ["f", "off"]

/-- Reads any of the words for yes and no, in either case, with nothing around it. -/
def readFlagWord (text : Text) : Checked Bool :=
  let word := text.map fun c => if Nat.ble 65 c.toNat && Nat.ble c.toNat 90 then
    Char.ofNat (c.toNat + 32) else c
  if yesWords.elem word || otherYesWords.elem word then .value true
  else if noWords.elem word || otherNoWords.elem word then .value false
  else .fail .unreadableBoolean

def readFlagText (text : Text) : Checked Bool :=
  let word := Text.lower (Text.strip text)
  if yesWords.elem word then .value true
  else if noWords.elem word then .value false
  else readFlagWord text

/-- Reads a flag; null means yes. -/
def readFlag : Value → Checked Bool
  | .null => .value true
  | .bool b => .value b
  | .text t => readFlagText t
  | .bytes bs =>
    match Text.ofBytes? bs with
    | some t => readFlagWord t
    | none => .fail .unreadableBoolean
  | .int n =>
    if n = 0 then .value false else if n = 1 then .value true
    else if -floatIntegerBound ≤ n ∧ n < floatIntegerBound then .fail .unreadableBoolean
    else .fail .notBoolean
  | .float x =>
    match x.toInt? with
    | some n =>
      if n = 0 then .value false else if n = 1 then .value true
      else if -floatIntegerBound < n ∧ n < floatIntegerBound then .fail .unreadableBoolean
      else .fail .notBoolean
    | none => .fail .notBoolean
  | _ => .fail .notBoolean

/-! ## Lists -/

/-- The items of anything that counts as a list. -/
def readList (v : Value) : Checked (List Value) :=
  match v.opened with
  | .list items => .value items
  | .tuple items => .value items
  | .set items => .value items
  | _ => .fail .notList

end FixedExtract.Definition
