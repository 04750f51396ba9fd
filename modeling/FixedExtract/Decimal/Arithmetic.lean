import FixedExtract.Decimal.Basic
/-!
# Decimal arithmetic

Sums and quotients are rounded to a fixed number of significant digits, a half going to the even
neighbour. A result whose leading digit is beyond the largest exponent overflows and has no value; one
below the smallest exponent loses digits.
-/

namespace FixedExtract.Decimal

/-- How many digits a result keeps, and the range of the exponent of its leading digit. -/
structure Precision where
  digits : Nat
  maxExponent : Int
  minExponent : Int
  deriving DecidableEq, Repr

/-- Results have 28 digits and exponents of at most six digits. -/
def working : Precision := ⟨28, 999999, -999999⟩

/-- The exponent of the last digit of the smallest result. -/
def Precision.tiny (p : Precision) : Int := p.minExponent - (p.digits - 1)

/-- The quotient rounded to the nearest integer, a half to the even one. -/
def divHalfEven (n d : Nat) : Nat :=
  let quotient := n / d
  let twice := 2 * (n % d)
  if twice > d ∨ (twice = d ∧ quotient % 2 = 1) then quotient + 1 else quotient

/-- The decimal rounded to a larger exponent. A coefficient with fewer digits than are dropped is below
half a unit, so that no large power of ten is taken for it. -/
def roundTo (e : Int) (d : Decimal) : Decimal :=
  let dropped := (e - d.exponent).toNat
  { d with
    coefficient :=
      if digitCount d.coefficient < dropped then 0 else divHalfEven d.coefficient (Nat.pow 10 dropped)
    exponent := e }

/-- The decimal rounded to `p`; none when it overflows. -/
def round? (p : Precision) (d : Decimal) : Option Decimal :=
  if d.isZero then
    some { d with exponent := min (max d.exponent p.tiny) p.maxExponent }
  else if d.adjusted > p.maxExponent then none
  else if d.adjusted < p.minExponent then
    some (if d.exponent < p.tiny then roundTo p.tiny d else d)
  else
    let excess := digitCount d.coefficient - p.digits
    if excess = 0 then some d
    else
      let rounded := roundTo (d.exponent + excess) d
      -- Rounding up may carry into one more digit, all of them zeros.
      let result :=
        if digitCount rounded.coefficient > p.digits then
          { rounded with coefficient := rounded.coefficient / 10, exponent := rounded.exponent + 1 }
        else rounded
      if result.adjusted > p.maxExponent then none else some result

/-- The exponent below which a summand cannot change the rounded sum with `large` except by being
there at all. -/
def negligibleBelow (p : Precision) (large : Decimal) : Int :=
  let count := digitCount large.coefficient
  large.exponent - 1 + (if count > p.digits then 0 else (count : Int) - p.digits - 1)

/-- A stand-in for a summand that is negligible beside `large`: one unit at the border. -/
def standIn (p : Precision) (large small : Decimal) : Decimal :=
  if small.adjusted < negligibleBelow p large then
    { small with
      coefficient := if small.isZero then 0 else 1
      exponent := negligibleBelow p large }
  else small

/-- The exact sum of decimals whose exponents are near each other. -/
def addExact (a b : Decimal) : Decimal :=
  let e := min a.exponent b.exponent
  let sum := a.scaledTo e + b.scaledTo e
  ⟨if sum = 0 then a.negative && b.negative else sum < 0, sum.natAbs, e⟩

/-- The rounded sum of two decimals, the first having the larger exponent. -/
def addOrdered? (p : Precision) (large small : Decimal) : Option Decimal :=
  if large.isZero then
    round? p { small with
      negative := if small.isZero then large.negative && small.negative else small.negative }
  else round? p (addExact large (standIn p large small))

/-- The rounded sum; none when it overflows. -/
def add? (p : Precision) (a b : Decimal) : Option Decimal :=
  if a.exponent ≥ b.exponent then addOrdered? p a b else addOrdered? p b a

/-- The sum of a list, rounded after every addition; none when some sum overflows. -/
def sum? (p : Precision) (ds : List Decimal) : Option Decimal :=
  ds.foldlM (add? p) (ofNat 0)

/-- The rounded quotient by a positive natural number; none when it overflows. The quotient is first
taken to more digits than are kept, and one last digit says whether anything is left over. -/
def divNat? (p : Precision) (d : Decimal) (n : Nat) : Option Decimal :=
  let shift := digitCount n + p.digits + 1
  let scaled := d.coefficient * Nat.pow 10 shift
  let left := if scaled % n = 0 then 0 else 1
  round? p { d with
    coefficient := scaled / n * 10 + left
    exponent := d.exponent - shift - 1 }

/-- The coefficient without its trailing zeros, and their number. -/
def withoutZeros (coefficient : Nat) : Nat × Nat :=
  if coefficient ≠ 0 ∧ coefficient % 10 = 0 then
    let (rest, count) := withoutZeros (coefficient / 10)
    (rest, count + 1)
  else (coefficient, 0)
termination_by coefficient
decreasing_by omega

/-- The rounded decimal of the same value with the fewest digits. -/
def reduce? (p : Precision) (d : Decimal) : Option Decimal :=
  (round? p d).map fun r =>
    if r.isZero then { r with exponent := 0 }
    else
      let (rest, count) := withoutZeros r.coefficient
      { r with coefficient := rest, exponent := r.exponent + count }

/-- The plain text of a decimal rounded to `p`, without trailing zeros and without a sign on zero. -/
def shortPlain? (p : Precision) (d : Decimal) : Option Text :=
  (reduce? p d).map fun r => if r.isZero then ['0'] else plain r

end FixedExtract.Decimal
