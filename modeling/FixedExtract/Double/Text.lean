import FixedExtract.Double
import FixedExtract.Text.Integer
/-!
# Doubles as text

A double is read from text, and its size is written in one of several styles.
-/

namespace FixedExtract.Double

/-! ## Reading doubles

A double is written as a decimal with an optional fraction and exponent, or as one of the words for
infinity and for what is no number. Digits of any script count, single underscores may stand between
digits, and white space around the whole.
-/

/-- Drops single underscores between digits; none when another underscore is left. -/
def withoutUnderscores? : Text → Option Text
  | [] => some []
  | '_' :: _ => none
  | c :: '_' :: d :: rest =>
    if Text.isAsciiDigit c && Text.isAsciiDigit d then
      (withoutUnderscores? (d :: rest)).map (c :: ·)
    else none
  | c :: rest => (withoutUnderscores? rest).map (c :: ·)

def digitsValue (digits : Text) : Nat :=
  Text.valueOfDigits 10 (digits.map Text.asciiDigitValue)

/-- The exponent part: nothing, or `e` with an optional sign and at least one digit. -/
def readExponent? : Text → Option Int
  | [] => some 0
  | c :: rest =>
    if c = 'e' ∨ c = 'E' then
      let (negative, digits) : Bool × Text := match rest with
        | '-' :: digits => (true, digits)
        | '+' :: digits => (false, digits)
        | digits => (false, digits)
      if digits.isEmpty || !digits.all Text.isAsciiDigit then none
      else some (if negative then -(digitsValue digits : Int) else digitsValue digits)
    else none

/-- Reads an unsigned decimal in ASCII. -/
def readDecimal? (negative : Bool) (text : Text) : Option Double :=
  let whole := text.takeWhile Text.isAsciiDigit
  let (fraction, after) : Text × Text := match text.dropWhile Text.isAsciiDigit with
    | '.' :: rest => (rest.takeWhile Text.isAsciiDigit, rest.dropWhile Text.isAsciiDigit)
    | rest => ([], rest)
  if whole.isEmpty && fraction.isEmpty then none
  else (readExponent? after).map fun exponent =>
    ofDecimal negative (digitsValue (whole ++ fraction)) (exponent - fraction.length)

/-- The words for infinity, in lower case. -/
def infinityWords : List Text := ["inf", "infinity"]

/-- Reads a double. -/
def read? (text : Text) : Option Double := do
  let plain ← withoutUnderscores? ((Text.trimBy Text.isNumeralSpace text).map Text.asciiDigit)
  let (negative, unsigned) : Bool × Text := match plain with
    | '-' :: rest => (true, rest)
    | '+' :: rest => (false, rest)
    | rest => (false, rest)
  let word := unsigned.map fun c =>
    if Nat.ble 65 c.toNat && Nat.ble c.toNat 90 then Char.ofNat (c.toNat + 32) else c
  if infinityWords.elem word then some (.infinite negative)
  else if word == ("nan" : Text) then some .nan
  else readDecimal? negative unsigned

/-! ## Styles -/

inductive Style where
  | fixed
  | exponent
  | general
  deriving DecidableEq, Repr

/-- The exponent of ten of the first digit of a positive quotient. -/
def leadingPlace (n d : Nat) : Int :=
  if d ≤ n then (Nat.toDigits 10 (n / d)).length - 1
  else
    let places := (Nat.toDigits 10 (d / n)).length - 1
    if n * Nat.pow 10 places = d then -places else -places - 1

/-- A quotient rounded to `count` digits, and the exponent of ten of the first of them. -/
def significant (count n d : Nat) : Text × Int :=
  if n = 0 then (List.replicate count '0', 0)
  else
    let first := leadingPlace n d
    let shift := (count : Int) - 1 - first
    let rounded := nearest (n * Nat.pow 10 shift.toNat) (d * Nat.pow 10 (-shift).toNat)
    let digits := Nat.toDigits 10 rounded
    (digits.take count, if digits.length > count then first + 1 else first)

/-- An exponent of ten with its sign and at least two digits. -/
def exponentText (e : Int) : Text :=
  let digits := Text.ofNat e.natAbs
  'e' :: (if e < 0 then '-' else '+') :: List.replicate (2 - digits.length) '0' ++ digits

/-- Digits on both sides of a point, which is left out when nothing is behind it, unless it is `kept`. -/
def pointed (kept : Bool) (whole fraction : Text) : Text :=
  if fraction.isEmpty && !kept then whole else whole ++ '.' :: fraction

/-- The text without the zeros at its end. -/
def withoutFinalZeros (digits : Text) : Text := (digits.reverse.dropWhile (· = '0')).reverse

/-- A quotient with an exponent, whose digits lose the zeros at their end unless those are `kept`. -/
def exponentForm (kept zeros : Bool) (digits : Text) (e : Int) : Text :=
  let fraction := digits.drop 1
  pointed kept (digits.take 1) (if zeros then fraction else withoutFinalZeros fraction) ++ exponentText e

/-- A quotient without an exponent, the first of whose digits has the exponent `e`. -/
def plainForm (kept zeros : Bool) (digits : Text) (e : Int) : Text :=
  let whole := if e < 0 then ['0'] else digits.take (e.toNat + 1)
  let fraction :=
    if e < 0 then List.replicate (-e - 1).toNat '0' ++ digits else digits.drop (e.toNat + 1)
  pointed kept whole (if zeros then fraction else withoutFinalZeros fraction)

/-- No double has more digits than these that are not zero. -/
def maxSignificant : Nat := 1100

/-- A quotient in a style. `marked` keeps the point, and in the general style also the zeros at the end. -/
def quotientText (style : Style) (marked : Bool) (precision n d : Nat) : Text :=
  match style with
  | .fixed =>
    let digits := Nat.toDigits 10 (nearest (n * Nat.pow 10 precision) d)
    let digits := List.replicate (precision + 1 - digits.length) '0' ++ digits
    pointed marked (digits.take (digits.length - precision)) (digits.drop (digits.length - precision))
  | .exponent =>
    let (digits, e) := significant (precision + 1) n d
    exponentForm marked true digits e
  | .general =>
    let count := max precision 1
    let (digits, e) := significant (if marked then count else min count maxSignificant) n d
    if -4 ≤ e ∧ e < count then plainForm marked marked digits e
    else exponentForm marked marked digits e

/-- The size of a double in a style. -/
def sizeText (style : Style) (marked : Bool) (precision : Nat) : Double → Text
  | .finite _ mantissa exponent =>
    let (n, d) := ratio mantissa exponent
    quotientText style marked precision n d
  | .infinite _ => "inf"
  | .nan => "nan"

/-- Is the double written with a minus sign? -/
def isNegative : Double → Bool
  | .finite negative _ _ => negative
  | .infinite negative => negative
  | .nan => false

end FixedExtract.Double
