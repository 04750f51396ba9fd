import FixedExtract.Double.Text
import FixedExtract.Text.Case
import FixedExtract.Text.Integer
import FixedExtract.Value.Basic
import FixedExtract.Value.Display
/-!
# Templates

A template is text with places for values; two percent signs stand for one. The values are taken in order, and
all of them must be used, unless they are named.
-/

namespace FixedExtract.Template

/-! ## Places in templates

A place starts with a percent sign and ends with a letter that says how a value is written. Between them may
stand the name of the value in parentheses, flags, a width, a precision, and a size that does not count. A star
takes the width or the precision from the values.
-/

/-- Why a template cannot be filled. -/
inductive Fault where
  | incomplete
  | incompleteName
  | widthTooBig
  | precisionTooBig
  | unsupported (letter : Char) (index : Nat)
  | noInteger
  | notNamed
  | missing (name : Text)
  | wrongNumber
  | wrongValue
  | outOfRange
  | unstorable
  deriving DecidableEq, Repr

/-- The values for a template: those that are still to be written, and the map that they are named in when
they are. -/
structure Arguments where
  named : Option Entries
  left : List Value
  deriving Repr

/-- The next value. -/
def Arguments.next (arguments : Arguments) : Except Fault (Value × Arguments) :=
  match arguments.left with
  | v :: rest => .ok (v, { arguments with left := rest })
  | [] => .error .wrongNumber

/-- How a value is written at a place. -/
structure Place where
  leftAligned : Bool
  zeroFilled : Bool
  plusSign : Bool
  spaceSign : Bool
  marked : Bool
  width : Nat
  precision : Option Nat
  letter : Char
  deriving DecidableEq, Repr

/-! ### Names -/

/-- The text up to the parenthesis that closes `depth` open ones, and what is behind it. -/
def takeName? : (depth : Nat) → Text → Option (Text × Text)
  | _, [] => none
  | depth, c :: rest =>
    if c = ')' then
      if depth = 1 then some ([], rest)
      else (takeName? (depth - 1) rest).map fun (name, after) => (c :: name, after)
    else (takeName? (if c = '(' then depth + 1 else depth) rest).map fun (name, after) =>
      (c :: name, after)

/-- Makes the value next whose name stands here, if one does. -/
def readName (arguments : Arguments) (text : Text) : Except Fault (Arguments × Text) :=
  match text with
  | '(' :: rest =>
    match arguments.named with
    | none => .error .notNamed
    | some entries =>
      match takeName? 1 rest with
      | none => .error .incompleteName
      | some (name, after) =>
        match entries.get? name with
        | some v => .ok (⟨some entries, [v]⟩, after)
        | none => .error (.missing name)
  | _ => .ok (arguments, text)

/-! ### Widths -/

/-- The largest width. -/
def maxWidth : Nat := 9223372036854775807

/-- The largest precision. -/
def maxPrecision : Nat := 2147483647

/-- The number at the front of a text, and the text behind it. -/
def takeNumber (text : Text) : Nat × Text :=
  (Text.valueOfDigits 10 ((text.takeWhile Text.isAsciiDigit).map Text.asciiDigitValue),
    text.dropWhile Text.isAsciiDigit)

/-- The integer that a value counts as. -/
def integer? : Value → Option Int
  | .int n => some n
  | .bool b => some (if b then 1 else 0)
  | _ => none

/-- Takes a number from the values, which is at most `bound`. -/
def nextNumber (bound : Nat) (arguments : Arguments) : Except Fault (Int × Arguments) := do
  let (v, arguments) ← arguments.next
  match integer? v with
  | none => throw .wrongValue
  | some n => if n.natAbs ≤ bound then return (n, arguments) else throw .outOfRange

/-- Reads a width; a negative one means that the value stands on the left. -/
def readWidth (arguments : Arguments) (text : Text) : Except Fault (Int × Arguments × Text) :=
  match text with
  | '*' :: rest => (nextNumber maxWidth arguments).map fun (n, arguments) => (n, arguments, rest)
  | _ =>
    let (width, rest) := takeNumber text
    if width ≤ maxWidth then .ok (width, arguments, rest) else .error .widthTooBig

/-- Reads a precision behind its point. -/
def readPrecision (arguments : Arguments) (text : Text) :
    Except Fault (Option Nat × Arguments × Text) :=
  match text with
  | '.' :: '*' :: rest =>
    (nextNumber maxPrecision arguments).map fun (n, arguments) => (some n.toNat, arguments, rest)
  | '.' :: rest =>
    let (precision, rest) := takeNumber rest
    if precision ≤ maxPrecision then .ok (some precision, arguments, rest) else .error .precisionTooBig
  | _ => .ok (none, arguments, text)

/-! ### Places -/

def isFlag (c : Char) : Bool := c = '-' || c = '0' || c = '+' || c = ' ' || c = '#'

/-- The text behind a size. -/
def skipSize : Text → Text
  | c :: rest => if c = 'h' ∨ c = 'l' ∨ c = 'L' then rest else c :: rest
  | [] => []

/-- Reads a place behind its percent sign. -/
def readPlace (arguments : Arguments) (text : Text) : Except Fault (Place × Arguments × Text) := do
  let (arguments, text) ← readName arguments text
  let flags := text.takeWhile isFlag
  let (width, arguments, text) ← readWidth arguments (text.dropWhile isFlag)
  let (precision, arguments, text) ← readPrecision arguments text
  match skipSize text with
  | [] => throw .incomplete
  | letter :: rest =>
    return (⟨flags.elem '-' || width < 0, flags.elem '0', flags.elem '+', flags.elem ' ', flags.elem '#',
      width.natAbs, precision, letter⟩, arguments, rest)

/-! ## Values in templates

How a value is written at a place: as a text, as an integer in some base, as a number with a fraction, or as a
single character.
-/

/-- The longest text that a store holds. -/
def maxStored : Nat := 1099511627776

/-- Fills a text to the width of the place. Zeros go between a sign and the digits. -/
def fill (place : Place) (sign digits : Text) : Except Fault Text :=
  let missing := place.width - (sign.length + digits.length)
  if maxStored < missing then .error .unstorable
  else if place.leftAligned then .ok (sign ++ digits ++ List.replicate missing ' ')
  else if place.zeroFilled then .ok (sign ++ List.replicate missing '0' ++ digits)
  else .ok (List.replicate missing ' ' ++ sign ++ digits)

/-- The sign of a number. -/
def signText (place : Place) (negative : Bool) : Text :=
  if negative then ['-'] else if place.plusSign then ['+'] else if place.spaceSign then [' '] else []

/-! ### Texts -/

/-- A text, cut to the precision of the place. -/
def writeText (place : Place) (text : Text) : Except Fault Text :=
  let cut := match place.precision with
    | some n => text.take n
    | none => text
  fill { place with zeroFilled := false } [] cut

/-- The text with escapes in place of all characters that are not ASCII. -/
def asciiOnly (text : Text) : Text :=
  text.flatMap fun c => if c.toNat < 128 then [c] else Text.escapePoint c.toNat

/-- A text of one character, or the character with a number. -/
def writeCharacter (place : Place) (v : Value) : Except Fault Text :=
  let place := { place with precision := none }
  match v with
  | .text [c] => writeText place [c]
  | _ =>
    match integer? v with
    | some n => if 0 ≤ n ∧ n < 0x110000 then writeText place [Char.ofNat n.toNat] else .error .outOfRange
    | none => .error .wrongValue

/-! ### Integers -/

/-- The integer in front of the point of a number. -/
def whole (v : Value) : Except Fault Int :=
  match v with
  | .float (.finite negative mantissa exponent) =>
    let (n, d) := Double.ratio mantissa exponent
    .ok (if negative then -(n / d : Nat) else (n / d : Nat))
  | .float (.infinite _) => .error .outOfRange
  | .float .nan => .error .noInteger
  | _ =>
    match integer? v with
    | some n => .ok n
    | none => .error .wrongValue

/-- The most digits that an integer is filled to. -/
def maxDigits : Nat := 2147483644

/-- An integer in a base, with at least as many digits as the precision of the place. -/
def writeInteger (place : Place) (base : Nat) (mark : Text) (n : Int) : Except Fault Text :=
  if maxDigits < place.precision.getD 0 then .error .outOfRange
  else
    let digits := Nat.toDigits base n.natAbs
    let digits := if place.letter = 'X' then Text.upper digits else digits
    let zeros := List.replicate (place.precision.getD 0 - digits.length) '0'
    fill place (signText place (n < 0) ++ (if place.marked then mark else [])) (zeros ++ digits)

/-- An integer in a base that is no number's usual one. -/
def writeCode (place : Place) (base : Nat) (mark : Text) (v : Value) : Except Fault Text :=
  match integer? v with
  | some n => writeInteger place base mark n
  | none => .error .wrongValue

/-! ### Numbers with fractions -/

/-- The double that a value counts as. -/
def double (v : Value) : Except Fault Double :=
  match v with
  | .float x => .ok x
  | _ =>
    match integer? v with
    | some n =>
      let x := Double.ofInt n
      if x.isFinite then .ok x else .error .outOfRange
    | none => .error .wrongValue

/-- The places of a number with a fraction for which none are given. -/
def usualPrecision : Nat := 6

/-- A number in a style; a capital letter stands for capitals in the text. -/
def writeDouble (place : Place) (style : Double.Style) (v : Value) : Except Fault Text := do
  let x ← double v
  let size := x.sizeText style place.marked (place.precision.getD usualPrecision)
  fill place (signText place x.isNegative) (if place.letter.isUpper then Text.upper size else size)

/-! ### All letters -/

/-- Writes a value at a place whose letter has an index. -/
def write (place : Place) (index : Nat) (v : Value) : Except Fault Text :=
  match place.letter with
  | 's' => writeText place v.display
  | 'r' => writeText place v.form
  | 'a' => writeText place (asciiOnly v.form)
  | 'c' => writeCharacter place v
  | 'd' | 'i' | 'u' => do writeInteger { place with marked := false } 10 [] (← whole v)
  | 'o' => writeCode place 8 "0o" v
  | 'x' => writeCode place 16 "0x" v
  | 'X' => writeCode place 16 "0X" v
  | 'f' | 'F' => writeDouble place .fixed v
  | 'e' | 'E' => writeDouble place .exponent v
  | 'g' | 'G' => writeDouble place .general v
  | letter => .error (.unsupported letter index)

/-! ## Whole templates -/

/-- Fills a template whose rest starts at an index. -/
def fillFrom : (fuel index : Nat) → Text → Arguments → Except Fault Text
  | 0, _, _, _ => .error .incomplete
  | _, _, [], arguments =>
    if arguments.named.isNone && !arguments.left.isEmpty then .error .wrongNumber else .ok []
  | fuel + 1, index, '%' :: '%' :: rest, arguments => do
    return '%' :: (← fillFrom fuel (index + 2) rest arguments)
  | fuel + 1, index, '%' :: rest, arguments => do
    let (place, arguments, after) ← readPlace arguments rest
    let next := index + 1 + (rest.length - after.length)
    let (v, arguments) ← arguments.next
    let text ← write place (next - 1) v
    return text ++ (← fillFrom fuel next after arguments)
  | fuel + 1, index, c :: rest, arguments => do
    return c :: (← fillFrom fuel (index + 1) rest arguments)

/-- Fills a template. -/
def fillAll (template : Text) (arguments : Arguments) : Except Fault Text :=
  fillFrom (template.length + 1) 0 template arguments

/-- The message for a letter that is no way to write a value. -/
def unsupportedMessage (letter : Char) (index : Nat) : Text :=
  let shown := if 31 ≤ letter.toNat ∧ letter.toNat < 127 then letter else '?'
  "unsupported format character '" ++ [shown] ++ "' (0x" ++ Nat.toDigits 16 letter.toNat ++
    ") at index " ++ Text.ofNat index

/-- The message for a template that cannot be filled because of how it is written, or because a number is
none. -/
def Fault.message? : Fault → Option Text
  | .incomplete => some "incomplete format"
  | .incompleteName => some "incomplete format key"
  | .widthTooBig => some "width too big"
  | .precisionTooBig => some "precision too big"
  | .unsupported letter index => some (unsupportedMessage letter index)
  | .noInteger => some "cannot convert float NaN to integer"
  | _ => none

end FixedExtract.Template
