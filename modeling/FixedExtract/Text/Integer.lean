import FixedExtract.Text.Quoted
/-!
# Reading integers

An integer is written with digits of any script, in bases other than ten also with letters, after an
optional sign. Single underscores may stand between digits, and white space around the whole. Bases two,
eight and sixteen allow their customary mark in front of the digits.
-/

namespace FixedExtract.Text

/-- Why a text is no integer. -/
inductive IntegerFault where
  | invalid (base : Nat) (text : Text)
  | tooLong (digits : Nat)
  deriving DecidableEq, Repr

/-- The most digits an integer may have in a base that is no power of two. -/
def maxDigits : Nat := 4300

/-- How much of a quoted text an error message shows. -/
def maxQuoted : Nat := 200

/-- What is said of an integer that has too many digits to be written in base ten. -/
def unwritableMessage : Text :=
  "Exceeds the limit (4300 digits) for integer string conversion; " ++
    "use sys.set_int_max_str_digits() to increase the limit"

def IntegerFault.message : IntegerFault → Text
  | .invalid base text =>
    "invalid literal for int() with base " ++ ofNat base ++ ": " ++ (quoted text).take maxQuoted
  | .tooLong digits =>
    "Exceeds the limit (4300 digits) for integer string conversion: value has " ++ ofNat digits ++
      " digits; use sys.set_int_max_str_digits() to increase the limit"

/-- A decimal digit of another script as the ASCII digit of the same value. -/
def asciiDigit (c : Char) : Char :=
  match decimalValue? c with
  | some value => Char.ofNat (48 + value)
  | none => c

/-- The value of a digit or letter in a base. -/
def digitIn? (base : Nat) (c : Char) : Option Nat :=
  let value? :=
    if isAsciiDigit c then some (c.toNat - 48)
    else if Nat.ble 97 c.toNat && Nat.ble c.toNat 122 then some (c.toNat - 87)
    else if Nat.ble 65 c.toNat && Nat.ble c.toNat 90 then some (c.toNat - 55)
    else none
  value?.filter (· < base)

/-- The digits of a numeral in which single underscores stand between digits only. -/
def digitsIn? (base : Nat) : Text → Option (List Nat)
  | [] => none
  | [c] => (digitIn? base c).map ([·])
  | c :: '_' :: rest =>
    match digitIn? base c, digitsIn? base rest with
    | some digit, some digits => some (digit :: digits)
    | _, _ => none
  | c :: rest =>
    match digitIn? base c, digitsIn? base rest with
    | some digit, some digits => some (digit :: digits)
    | _, _ => none

/-- The letter that marks a base. -/
def baseMark? (base : Nat) : Option Char :=
  if base = 2 then some 'b' else if base = 8 then some 'o' else if base = 16 then some 'x' else none

/-- Drops the mark of the base in front of digits, with one underscore behind it. -/
def dropBaseMark (base : Nat) (text : Text) : Text :=
  match baseMark? base, text with
  | some mark, '0' :: c :: rest =>
    if c = mark ∨ c.toNat + 32 = mark.toNat then
      match rest with
      | '_' :: digits => digits
      | digits => digits
    else text
  | _, _ => text

/-- Reads an integer in a base. -/
def readInteger (base : Nat) (text : Text) : Except IntegerFault Int :=
  let trimmed := (trimBy isNumeralSpace text).map asciiDigit
  let (negative, unsigned) := match trimmed with
    | '-' :: rest => (true, rest)
    | '+' :: rest => (false, rest)
    | rest => (false, rest)
  match digitsIn? base (dropBaseMark base unsigned) with
  | none => .error (.invalid base text)
  | some digits =>
    if baseMark? base = none ∧ digits.length > maxDigits then .error (.tooLong digits.length)
    else
      let size : Int := valueOfDigits base digits
      .ok (if negative then -size else size)

end FixedExtract.Text
