import FixedExtract.Text.Class
/-!
# Decimal numbers

A finite decimal is a sign, a coefficient and a power of ten: `1.50` and `1.5` are different decimals
of the same value. Comparison is by value and exact. It looks at the leading digits first, so that two
decimals of very different size are never brought to one exponent.
-/

namespace FixedExtract

/-- The decimal `± coefficient · 10 ^ exponent`. -/
structure Decimal where
  negative : Bool
  coefficient : Nat
  exponent : Int
  deriving DecidableEq, Repr, Inhabited

namespace Decimal

/-- The number of decimal digits of a natural number; zero has one. -/
def digitCount (n : Nat) : Nat := (Nat.toDigits 10 n).length

/-- The integer with a positive exponent of zero. -/
def ofNat (n : Nat) : Decimal := ⟨false, n, 0⟩

def isZero (d : Decimal) : Bool := d.coefficient == 0

/-- The exponent of the leading digit. -/
def adjusted (d : Decimal) : Int := d.exponent + digitCount d.coefficient - 1

/-- The coefficient with its sign. -/
def signed (d : Decimal) : Int := if d.negative then -(d.coefficient : Int) else d.coefficient

/-- The signed coefficient of the decimal written with the exponent `e`, for an `e` not above its own. -/
def scaledTo (e : Int) (d : Decimal) : Int := d.signed * (Nat.pow 10 (d.exponent - e).toNat : Nat)

/-! ## Comparison -/

/-- Compares two non-zero decimals of the same sign by size. -/
def compareSize (a b : Decimal) : Ordering :=
  match compare a.adjusted b.adjusted with
  | .eq =>
    let e := min a.exponent b.exponent
    compare (a.coefficient * Nat.pow 10 (a.exponent - e).toNat)
      (b.coefficient * Nat.pow 10 (b.exponent - e).toNat)
  | order => order

/-- Compares two decimals by value. -/
def compareValue (a b : Decimal) : Ordering :=
  if a.isZero then
    if b.isZero then .eq else if b.negative then .gt else .lt
  else if b.isZero then
    if a.negative then .lt else .gt
  else
    match a.negative, b.negative with
    | true, false => .lt
    | false, true => .gt
    | false, false => compareSize a b
    | true, true => compareSize b a

def lt (a b : Decimal) : Bool := compareValue a b == .lt

def le (a b : Decimal) : Bool := compareValue a b != .gt

/-- Do the two decimals have the same value? -/
def same (a b : Decimal) : Bool := compareValue a b == .eq

/-- The first of the smallest decimals of a non-empty list. -/
def minimum (first : Decimal) (rest : List Decimal) : Decimal :=
  rest.foldl (fun least d => if lt d least then d else least) first

/-- The first of the largest decimals of a non-empty list. -/
def maximum (first : Decimal) (rest : List Decimal) : Decimal :=
  rest.foldl (fun greatest d => if lt greatest d then d else greatest) first

/-! ## Written forms -/

/-- The digits of the coefficient with the point `places` digits from the right. -/
def pointed (coefficient places : Nat) : Text :=
  let digits := Nat.toDigits 10 coefficient
  if places = 0 then digits
  else if digits.length > places then
    digits.take (digits.length - places) ++ '.' :: digits.drop (digits.length - places)
  else '0' :: '.' :: List.replicate (places - digits.length) '0' ++ digits

/-- The text of a decimal with all its digits: positional while the exponent is not positive and the
leading digit is at most six places behind the point, and otherwise with one digit before the point
and an exponent. -/
def text (d : Decimal) : Text :=
  let sign : Text := if d.negative then ['-'] else []
  if d.exponent ≤ 0 ∧ -6 ≤ d.adjusted then
    sign ++ pointed d.coefficient (-d.exponent).toNat
  else
    let mantissa := pointed d.coefficient (digitCount d.coefficient - 1)
    let exponentSign := if d.adjusted < 0 then '-' else '+'
    sign ++ mantissa ++ 'E' :: exponentSign :: Text.ofNat d.adjusted.natAbs

/-- The text of a decimal without an exponent. -/
def plain (d : Decimal) : Text :=
  let sign : Text := if d.negative then ['-'] else []
  if d.exponent ≤ 0 then sign ++ pointed d.coefficient (-d.exponent).toNat
  else sign ++ Nat.toDigits 10 d.coefficient ++ List.replicate d.exponent.toNat '0'

end Decimal
end FixedExtract

namespace FixedExtract.Decimal

/-! ## Reading decimals

A decimal is read exactly: digits of any script, an optional sign, fraction and exponent, and
underscores wherever they stand. White space around it is dropped. The texts of infinities and of
not-a-number are no finite decimal and are refused like any other text.
-/

/-- The largest exponent a leading digit can have. -/
def leadingLimit : Int := 999999999999999999

/-- The smallest exponent a last digit can have. -/
def trailingLimit : Int := -1999999999999999997

/-- The text with digits of every script written in ASCII and without underscores; none when some other
character outside ASCII is left. -/
def asciiForm? : Text → Option Text
  | [] => some []
  | c :: rest =>
    if c = '_' then asciiForm? rest
    else if c.toNat < 128 then (asciiForm? rest).map (c :: ·)
    else
      match Text.decimalValue? c with
      | some value => (asciiForm? rest).map (Char.ofNat (48 + value) :: ·)
      | none => none

/-- An optional sign in front of a text. -/
def splitSign : Text → Bool × Text
  | '-' :: rest => (true, rest)
  | '+' :: rest => (false, rest)
  | text => (false, text)

/-- The value of a run of ASCII digits. -/
def digitsValue (digits : Text) : Nat :=
  Text.valueOfDigits 10 (digits.map Text.asciiDigitValue)

/-- The exponent part: nothing, or `e` with an optional sign and at least one digit. -/
def readExponent? : Text → Option Int
  | [] => some 0
  | c :: rest =>
    if c = 'e' ∨ c = 'E' then
      let (negative, digits) := splitSign rest
      if digits.isEmpty || !digits.all Text.isAsciiDigit then none
      else some (if negative then -(digitsValue digits : Int) else digitsValue digits)
    else none

/-- Is the decimal within the limits on its exponents? -/
def withinLimits (d : Decimal) : Bool :=
  trailingLimit ≤ d.exponent &&
    (if d.isZero then d.exponent ≤ leadingLimit else d.adjusted ≤ leadingLimit)

/-- Reads an unsigned decimal in ASCII. -/
def readUnsigned? (negative : Bool) (text : Text) : Option Decimal :=
  let whole := text.takeWhile Text.isAsciiDigit
  let afterWhole := text.dropWhile Text.isAsciiDigit
  let (fraction, afterFraction) : Text × Text :=
    match afterWhole with
    | '.' :: rest => (rest.takeWhile Text.isAsciiDigit, rest.dropWhile Text.isAsciiDigit)
    | rest => ([], rest)
  if whole.isEmpty && fraction.isEmpty then none
  else do
    let exponent ← readExponent? afterFraction
    let d : Decimal := ⟨negative, digitsValue (whole ++ fraction), exponent - fraction.length⟩
    if withinLimits d then some d else none

/-- The finite decimal that a text denotes. -/
def read? (text : Text) : Option Decimal := do
  let ascii ← asciiForm? (Text.strip text)
  let (negative, unsigned) := splitSign ascii
  readUnsigned? negative unsigned

end FixedExtract.Decimal
