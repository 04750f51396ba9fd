import FixedExtract.Value.Basic
import FixedExtract.Text.Class
/-!
# Reading JSON

Reads one JSON document. Besides the standard grammar the words `NaN`, `Infinity` and `-Infinity` are
numbers. A number without fraction and exponent is an integer of any size. A key that is repeated keeps
its first place and takes its last value. An error carries the position that it is reported at, counted
in code points from the start of the document.

Every reader takes the position and the text from there on, and gives its result with the position and
the text behind it.
-/

namespace FixedExtract.Json

/-- Why a document cannot be read. -/
inductive Cause where
  | expectingValue
  | expectingName
  | expectingColon
  | expectingComma
  | extraData
  | unterminatedString
  | controlCharacter
  | invalidEscape
  | invalidCodePoint
  | byteOrderMark
  | tooManyDigits (digits : Nat)
  deriving DecidableEq, Repr

structure Fault where
  cause : Cause
  position : Nat
  deriving DecidableEq, Repr

def isBlank (c : Char) : Bool := c = ' ' || c = '\t' || c = '\n' || c = '\r'

/-- Skips white space. -/
def skipBlanks (position : Nat) (text : Text) : Nat × Text :=
  (position + (text.takeWhile isBlank).length, text.dropWhile isBlank)

/-! ## Strings -/

/-- The value of the first four hexadecimal digits. -/
def fourHexDigits? (text : Text) : Option Nat := do
  let digits ← (text.take 4).mapM Text.hexDigit?
  if digits.length = 4 then some (Text.valueOfDigits 16 digits) else none

/-- The character that a one-letter escape stands for. -/
def simpleEscape? : Char → Option Char
  | '"' => some '"'
  | '\\' => some '\\'
  | '/' => some '/'
  | 'b' => some '\x08'
  | 'f' => some '\x0c'
  | 'n' => some '\n'
  | 'r' => some '\r'
  | 't' => some '\t'
  | _ => none

/-- The low half of a surrogate pair at the start of a text. -/
def lowSurrogate? : Text → Option Nat
  | '\\' :: 'u' :: rest => do
    let low ← fourHexDigits? rest
    if 0xDC00 ≤ low ∧ low ≤ 0xDFFF then some low else none
  | _ => none

/-- Reads the rest of a string whose opening quote was at `start`. Every step uses up a character. -/
def readString (start : Nat) : (fuel position : Nat) → Text → Except Fault (Text × Nat × Text)
  | 0, _, _ => .error ⟨.unterminatedString, start⟩
  | fuel + 1, position, text =>
    let consing := fun (c : Char) (advance : Nat) (rest : Text) =>
      (readString start fuel (position + advance) rest).map fun (chars, after) => (c :: chars, after)
    match text with
    | [] => .error ⟨.unterminatedString, start⟩
    | '"' :: rest => .ok ([], position + 1, rest)
    | ['\\'] => .error ⟨.unterminatedString, start⟩
    | '\\' :: 'u' :: rest =>
      -- The four digits must not be the last characters of the document.
      if rest.length < 5 then .error ⟨.invalidCodePoint, position + 1⟩
      else
        match fourHexDigits? rest with
        | none => .error ⟨.invalidCodePoint, position + 1⟩
        | some code =>
          let after := rest.drop 4
          if 0xD800 ≤ code ∧ code ≤ 0xDBFF ∧ after.take 2 = ['\\', 'u'] ∧ after.length > 6 then
            if (fourHexDigits? (after.drop 2)).isNone then
              .error ⟨.invalidCodePoint, position + 7⟩
            else
              match lowSurrogate? after with
              | some low =>
                consing (Char.ofNat ((code - 0xD800) * 0x400 + (low - 0xDC00) + 0x10000)) 12
                  (after.drop 6)
              | none => consing '\ufffd' 6 after
          else if 0xD800 ≤ code ∧ code ≤ 0xDFFF then consing '\ufffd' 6 after
          else consing (Char.ofNat code) 6 after
    | '\\' :: letter :: rest =>
      match simpleEscape? letter with
      | some c => consing c 2 rest
      | none => .error ⟨.invalidEscape, position⟩
    | c :: rest =>
      if c.toNat < 32 then .error ⟨.controlCharacter, position⟩ else consing c 1 rest

/-! ## Numbers -/

/-- The most digits that an integer may have. -/
def maxDigits : Nat := 4300

/-- Is there a minus at the start of a text? -/
def splitSign : Text → Bool × Text
  | '-' :: rest => (true, rest)
  | text => (false, text)

/-- The digits of an integer at the start of a text, of which a zero is the only one. -/
def wholeDigits : Text → Text
  | '0' :: _ => ['0']
  | text => text.takeWhile Text.isAsciiDigit

/-- The fraction at the start of a text: a point and at least one digit. -/
def splitFraction : Text → Text × Text
  | '.' :: rest =>
    let digits := rest.takeWhile Text.isAsciiDigit
    if digits.isEmpty then ([], '.' :: rest) else (digits, rest.dropWhile Text.isAsciiDigit)
  | text => ([], text)

/-- Is there a minus at the start of an exponent? There may be a plus as well. -/
def splitExponentSign : Text → Bool × Text
  | '+' :: rest => (false, rest)
  | text => splitSign text

/-- The exponent at the start of a text: its sign, its digits, and the text behind it. -/
def splitExponent? : Text → Option (Bool × Text × Text)
  | c :: rest =>
    if c = 'e' ∨ c = 'E' then
      let (negative, digits) := splitExponentSign rest
      let taken := digits.takeWhile Text.isAsciiDigit
      if taken.isEmpty then none
      else some (negative, taken, digits.dropWhile Text.isAsciiDigit)
    else none
  | [] => none

def digitsValue (digits : Text) : Nat :=
  Text.valueOfDigits 10 (digits.map Text.asciiDigitValue)

/-- Reads a number. -/
def readNumber (start : Nat) (text : Text) : Except Fault (Value × Nat × Text) := do
  let (negative, unsigned) := splitSign text
  let whole := wholeDigits unsigned
  if whole.isEmpty then throw ⟨.expectingValue, start⟩
  let (fraction, rest) := splitFraction (unsigned.drop whole.length)
  let ended := fun (after : Text) => start + (text.length - after.length)
  match splitExponent? rest with
  | some (negativeExponent, digits, after) =>
    let size : Int := digitsValue digits
    let exponent := (if negativeExponent then -size else size) - fraction.length
    return (.float (Double.ofDecimal negative (digitsValue (whole ++ fraction)) exponent),
      ended after, after)
  | none =>
    if fraction.isEmpty then
      if whole.length > maxDigits then throw ⟨.tooManyDigits whole.length, start⟩
      let size : Int := digitsValue whole
      return (.int (if negative then -size else size), ended rest, rest)
    else
      return (.float (Double.ofDecimal negative (digitsValue (whole ++ fraction))
        (-(fraction.length : Int))), ended rest, rest)

/-! ## Values -/

/-- The words that stand for values. -/
def words : List (Text × Value) :=
  [("null", .null), ("true", .bool true), ("false", .bool false), ("NaN", .float .nan),
   ("Infinity", .float (.infinite false)), ("-Infinity", .float (.infinite true))]

/-- Reads a value that is neither a string nor a list nor an object. -/
def readScalar (position : Nat) (text : Text) : Except Fault (Value × Nat × Text) :=
  match words.find? fun word => word.1.isPrefixOf text with
  | some (word, value) => .ok (value, position + word.length, text.drop word.length)
  | none => readNumber position text

mutual

/-- Reads a value that starts here. The fuel is more than twice the number of characters to come: every value
and every separator uses up one of it, and there is a character for each of them. -/
def readValue : (fuel position : Nat) → Text → Except Fault (Value × Nat × Text)
  | 0, position, _ => .error ⟨.expectingValue, position⟩
  | fuel + 1, position, text =>
    match text with
    | '"' :: rest =>
      (readString position fuel (position + 1) rest).map fun (t, after) => (.text t, after)
    | '[' :: rest =>
      let (position, rest) := skipBlanks (position + 1) rest
      match rest with
      | ']' :: rest => .ok (.list [], position + 1, rest)
      | rest => (readItems fuel position rest).map fun (items, after) => (.list items, after)
    | '\x7b' :: rest =>
      let (position, rest) := skipBlanks (position + 1) rest
      match rest with
      | '\x7d' :: rest => .ok (.map [], position + 1, rest)
      | rest =>
        (readEntries fuel position rest).map fun (pairs, after) =>
          (.map (Entries.ofPairs pairs), after)
    | text => readScalar position text

/-- Reads the items of a list up to its closing bracket. -/
def readItems : (fuel position : Nat) → Text → Except Fault (List Value × Nat × Text)
  | 0, position, _ => .error ⟨.expectingValue, position⟩
  | fuel + 1, position, text => do
    let (item, position, rest) ← readValue fuel position text
    let (position, rest) := skipBlanks position rest
    match rest with
    | ']' :: rest => return ([item], position + 1, rest)
    | ',' :: rest =>
      let (position, rest) := skipBlanks (position + 1) rest
      let (items, after) ← readItems fuel position rest
      return (item :: items, after)
    | _ => throw ⟨.expectingComma, position⟩

/-- Reads the entries of an object up to its closing brace. -/
def readEntries : (fuel position : Nat) → Text → Except Fault (List (Text × Value) × Nat × Text)
  | 0, position, _ => .error ⟨.expectingName, position⟩
  | fuel + 1, position, text => do
    let (name, position, rest) ← match text with
      | '"' :: rest => readString position fuel (position + 1) rest
      | _ => throw ⟨.expectingName, position⟩
    let (position, rest) := skipBlanks position rest
    let rest ← match rest with
      | ':' :: rest => pure rest
      | _ => throw ⟨.expectingColon, position⟩
    let (position, rest) := skipBlanks (position + 1) rest
    let (value, position, rest) ← readValue fuel position rest
    let (position, rest) := skipBlanks position rest
    match rest with
    | '\x7d' :: rest => return ([(name, value)], position + 1, rest)
    | ',' :: rest =>
      let (position, rest) := skipBlanks (position + 1) rest
      let (entries, after) ← readEntries fuel position rest
      return ((name, value) :: entries, after)
    | _ => throw ⟨.expectingComma, position⟩

end

/-- Reads a document. -/
def read (text : Text) : Except Fault Value := do
  if text.head? = some '\ufeff' then throw ⟨.byteOrderMark, 0⟩
  let (position, rest) := skipBlanks 0 text
  let (value, position, rest) ← readValue (2 * text.length + 2) position rest
  let (position, rest) := skipBlanks position rest
  if rest.isEmpty then return value else throw ⟨.extraData, position⟩

end FixedExtract.Json
