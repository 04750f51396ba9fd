import FixedExtract.Decimal.Basic
import FixedExtract.Failure
import FixedExtract.Text.Class
/-!
# Ranges of values

A range is written as its two bounds with a hyphen or a comma between them. A bound is a plain numeral, perhaps
with a minus sign, and white space may stand around it. Both bounds belong to the range.
-/

namespace FixedExtract

structure ValueRange where
  low : Decimal
  high : Decimal
  deriving DecidableEq, Repr

namespace ValueRange

/-- The digits at the front of a text, and the text behind them; none when there are no digits. -/
def takeDigits? (text : Text) : Option (Text × Text) :=
  let digits := text.takeWhile Text.isDecimalDigit
  if digits.isEmpty then none else some (digits, text.dropWhile Text.isDecimalDigit)

/-- The point and the digits of a fraction, if there is one, and the text behind it. -/
def takeFraction (text : Text) : Text × Text :=
  match text with
  | '.' :: rest =>
    match takeDigits? rest with
    | some (digits, behind) => ('.' :: digits, behind)
    | none => ([], text)
  | _ => ([], text)

/-- The plain numeral at the front of a text, and the text behind it. -/
def takeNumeral? (text : Text) : Option (Text × Text) :=
  let (sign, unsigned) := match text with
    | '-' :: rest => (['-'], rest)
    | rest => ([], rest)
  (takeDigits? unsigned).map fun (digits, rest) =>
    let (fraction, behind) := takeFraction rest
    (sign ++ digits ++ fraction, behind)

/-- Is the whole text a plain numeral? -/
def isNumeral (text : Text) : Bool :=
  match takeNumeral? text with
  | some (_, []) => true
  | _ => false

/-- The text behind white space. -/
def skipSpace (text : Text) : Text := text.dropWhile Text.isSpace

/-- Reads a range. -/
def read? (text : Text) : Option ValueRange := do
  let (low, rest) ← takeNumeral? (skipSpace text)
  match skipSpace rest with
  | c :: rest =>
    if c = '-' ∨ c = ',' then
      let (high, rest) ← takeNumeral? (skipSpace rest)
      if (skipSpace rest).isEmpty then
        return ⟨← Decimal.read? low, ← Decimal.read? high⟩
      else none
    else none
  | [] => none

/-- Is a value in the range? -/
def contains (range : ValueRange) (d : Decimal) : Bool :=
  !d.lt range.low && !range.high.lt d

/-- What is said of a text that is no range. -/
def faultMessage (text : Text) : Text := "Invalid range expression '" ++ text ++ "'"

/-- The failure for a text that is no range. -/
def failure (text : Text) : Failure :=
  .make .ruleDefinition (faultMessage text) [(.text "expression", .text text)]

/-- The range that a text is, or the failure for one that is none. -/
def parse (text : Text) : Except Failure ValueRange :=
  match read? text with
  | some range => .ok range
  | none => .error (failure text)

end ValueRange
end FixedExtract
