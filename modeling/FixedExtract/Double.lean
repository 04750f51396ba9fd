import FixedExtract.Text.Basic
/-!
# Double precision numbers

Binary floating-point numbers with a 53-bit mantissa, kept as exact dyadic rationals: every operation
takes the exact result as a ratio of natural numbers and rounds it once, a half to the even neighbour.
The written form has the fewest digits that read back as the same number.
-/

namespace FixedExtract

/-- A double: `± mantissa · 2 ^ exponent`, an infinity, or not a number. A finite double has the largest
mantissa below `2 ^ 53` that its exponent, at least `-1074`, allows. -/
inductive Double where
  | finite (negative : Bool) (mantissa : Nat) (exponent : Int)
  | infinite (negative : Bool)
  | nan
  deriving DecidableEq, Repr, Inhabited

namespace Double

/-- The quotient rounded to the nearest integer, a half to the even one. -/
def nearest (n d : Nat) : Nat :=
  let quotient := n / d
  let twice := 2 * (n % d)
  if twice > d ∨ (twice = d ∧ quotient % 2 = 1) then quotient + 1 else quotient

/-- The ratio `n / d` divided by `2 ^ e`, as a ratio. -/
def unscale (n d : Nat) (e : Int) : Nat × Nat :=
  if e ≥ 0 then (n, d * Nat.pow 2 e.toNat) else (n * Nat.pow 2 (-e).toNat, d)

/-- The exponent with which a positive ratio has a 53-bit mantissa, or the smallest exponent. -/
def exponentOf (n d : Nat) : Int :=
  let guess : Int := Int.ofNat (Nat.log2 n) - Int.ofNat (Nat.log2 d) - 52
  let (num, den) := unscale n d guess
  max (-1074) (if num / den < Nat.pow 2 52 then guess - 1 else guess)

/-- The double nearest to the ratio of two natural numbers, the second being positive. -/
def ofRatio (negative : Bool) (n d : Nat) : Double :=
  if n = 0 then .finite negative 0 (-1074)
  else
    let e := exponentOf n d
    let (num, den) := unscale n d e
    let mantissa := nearest num den
    let (mantissa, e) := if mantissa = Nat.pow 2 53 then (Nat.pow 2 52, e + 1) else (mantissa, e)
    if e > 971 then .infinite negative else .finite negative mantissa e

/-- The double nearest to `± digits · 10 ^ exponent`. -/
def ofDecimal (negative : Bool) (digits : Nat) (exponent : Int) : Double :=
  let size : Int := exponent + (Nat.toDigits 10 digits).length
  if digits = 0 ∨ size < -400 then .finite negative 0 (-1074)
  else if size > 400 then .infinite negative
  else if exponent ≥ 0 then ofRatio negative (digits * Nat.pow 10 exponent.toNat) 1
  else ofRatio negative digits (Nat.pow 10 (-exponent).toNat)

/-- The double nearest to an integer. -/
def ofInt (n : Int) : Double := ofRatio (n < 0) n.natAbs 1

/-- The size of a finite double as an exact ratio. -/
def ratio (mantissa : Nat) (exponent : Int) : Nat × Nat :=
  if exponent ≥ 0 then (mantissa * Nat.pow 2 exponent.toNat, 1) else (mantissa, Nat.pow 2 (-exponent).toNat)

def isFinite : Double → Bool
  | .finite .. => true
  | _ => false

/-- The integer a double is equal to, if there is one. -/
def toInt? : Double → Option Int
  | .finite negative mantissa exponent =>
    let (n, d) := ratio mantissa exponent
    if n % d = 0 then some (if negative then -(n / d : Nat) else (n / d : Nat)) else none
  | _ => none

/-! ## Arithmetic -/

def mul : Double → Double → Double
  | .finite s₁ m₁ e₁, .finite s₂ m₂ e₂ =>
    let (n₁, d₁) := ratio m₁ e₁
    let (n₂, d₂) := ratio m₂ e₂
    ofRatio (s₁ != s₂) (n₁ * n₂) (d₁ * d₂)
  | .nan, _ | _, .nan => .nan
  | .infinite s₁, .infinite s₂ => .infinite (s₁ != s₂)
  | .infinite s₁, .finite s₂ m _ | .finite s₂ m _, .infinite s₁ =>
    if m = 0 then .nan else .infinite (s₁ != s₂)

def add : Double → Double → Double
  | .finite s₁ m₁ e₁, .finite s₂ m₂ e₂ =>
    let (n₁, d₁) := ratio m₁ e₁
    let (n₂, d₂) := ratio m₂ e₂
    let sum : Int :=
      (if s₁ then -(n₁ * d₂ : Int) else n₁ * d₂) + (if s₂ then -(n₂ * d₁ : Int) else n₂ * d₁)
    ofRatio (if sum = 0 then s₁ && s₂ else sum < 0) sum.natAbs (d₁ * d₂)
  | .nan, _ | _, .nan => .nan
  | .infinite s₁, .infinite s₂ => if s₁ = s₂ then .infinite s₁ else .nan
  | .infinite s, .finite .. | .finite .., .infinite s => .infinite s

/-- The quotient of an integer by a positive natural number. -/
def ofQuotient (n : Int) (d : Nat) : Double := ofRatio (n < 0) n.natAbs d

def neg : Double → Double
  | .finite s m e => .finite (!s) m e
  | .infinite s => .infinite (!s)
  | .nan => .nan

/-! ## Fixed places -/

/-- The double times `10 ^ places`, rounded to an integer, as a sign and a size. -/
def hundredths (places : Nat) (mantissa : Nat) (exponent : Int) : Nat :=
  let (n, d) := ratio mantissa exponent
  nearest (n * Nat.pow 10 places) d

/-- The double rounded to a number of decimal places. -/
def roundPlaces (places : Nat) : Double → Double
  | .finite s m e => ofRatio s (hundredths places m e) (Nat.pow 10 places)
  | other => other

/-- The text of a double with a fixed number of decimal places. -/
def fixedText (places : Nat) : Double → Text
  | .finite s m e =>
    let digits := Nat.toDigits 10 (hundredths places m e)
    let digits := List.replicate (places + 1 - digits.length) '0' ++ digits
    let whole := digits.length - places
    (if s then ['-'] else []) ++ digits.take whole ++
      (if places = 0 then [] else '.' :: digits.drop whole)
  | .infinite s => if s then "-inf" else "inf"
  | .nan => "nan"

/-! ## Shortest text -/

/-- The ends of the interval of reals that round to a double, and its value, all times one
denominator. The gap below a power of two is half the gap above it. -/
def interval (mantissa : Nat) (exponent : Int) : (Nat × Nat × Nat) × Nat :=
  let atPower := mantissa = Nat.pow 2 52 ∧ exponent > -1074
  let low := if atPower then 4 * mantissa - 1 else 4 * mantissa - 2
  let (n, d) := ratio 1 (exponent - 2)
  ((low * n, 4 * mantissa * n, (4 * mantissa + 2) * n), d)

/-- The decimal `digits · 10 ^ place` nearest to the double among those that read back as it, where
`place` is given; none when there is none. -/
def onGrid? (mantissa : Nat) (exponent : Int) (place : Int) : Option Nat :=
  let ((low, value, high), d) := interval mantissa exponent
  let up := Nat.pow 10 (-place).toNat
  let down := Nat.pow 10 place.toNat * d
  let inside := fun digits : Nat =>
    if mantissa % 2 = 0 then low * up ≤ digits * down ∧ digits * down ≤ high * up
    else low * up < digits * down ∧ digits * down < high * up
  let floor := value * up / down
  let near := nearest (value * up) down
  let far := if near = floor then floor + 1 else floor
  if inside near then some near else if inside far then some far else none

/-- The first grid, from coarse to fine, that holds a decimal reading back as the double. -/
def shortestFrom (mantissa : Nat) (exponent : Int) (place : Int) : Nat → Nat × Int
  | 0 => ((onGrid? mantissa exponent place).getD 0, place)
  | finer + 1 =>
    match onGrid? mantissa exponent place with
    | some digits => (digits, place)
    | none => shortestFrom mantissa exponent (place - 1) finer

/-- The digits of the shortest decimal that reads back as a positive double, and the place of the
point: the value is `0.digits · 10 ^ point`. -/
def shortest (mantissa : Nat) (exponent : Int) : Text × Int :=
  let (n, d) := ratio mantissa exponent
  -- The leading digit is at the place below the length of the integer part, or further down.
  let size : Int :=
    if n ≥ d then (Nat.toDigits 10 (n / d)).length else 1 - (Nat.toDigits 10 (d / n)).length
  let (digits, place) := shortestFrom mantissa exponent size 20
  let text := Nat.toDigits 10 digits
  let kept := (text.reverse.dropWhile (· == '0')).reverse
  (kept, place + text.length)

/-- The written form of doubles: positional for a point from three places before the first digit to
sixteen behind it, always with a digit on either side of the point; otherwise with an exponent of at
least two digits. -/
def positional (digits : Text) (point : Int) : Text :=
  if point ≤ 0 then '0' :: '.' :: List.replicate (-point).toNat '0' ++ digits
  else
    let whole := digits.take point.toNat
    let fraction := digits.drop point.toNat
    whole ++ List.replicate (point.toNat - whole.length) '0' ++
      '.' :: (if fraction.isEmpty then ['0'] else fraction)

/-- One digit, the other digits behind a point, and an exponent. -/
def scientific (digits : Text) (point : Int) : Text :=
  let e := point - 1
  let exponentDigits := Text.ofNat e.natAbs
  digits.take 1 ++ (if digits.length > 1 then '.' :: digits.drop 1 else []) ++
    'e' :: (if e < 0 then '-' else '+') ::
      List.replicate (2 - exponentDigits.length) '0' ++ exponentDigits

/-- The text of a double. -/
def text : Double → Text
  | .finite s m e =>
    let sign : Text := if s then ['-'] else []
    if m = 0 then sign ++ "0.0"
    else
      let (digits, point) := shortest m e
      sign ++ (if -4 < point ∧ point ≤ 16 then positional digits point
        else scientific digits point)
  | .infinite s => if s then "-inf" else "inf"
  | .nan => "nan"

end Double
end FixedExtract
