import FixedExtract.Rule.Range
import FixedExtract.Text.Case
/-!
# Formats

The forms that values of some kinds have when their rules give no pattern: addresses of electronic mail,
telephone numbers, social security numbers, account numbers, and the words and numbers of data types.
-/

namespace FixedExtract.Format

def isAsciiAlphanumeric (c : Char) : Bool := Text.isAsciiLetter c || Text.isAsciiDigit c

def isMailboxChar (c : Char) : Bool :=
  isAsciiAlphanumeric c || c = '+' || c = '_' || c = '.' || c = '-'

def isDomainChar (c : Char) : Bool := isAsciiAlphanumeric c || c = '.' || c = '-'

/-- A domain ends with a point and at least two letters. -/
def isDomain (text : Text) : Bool :=
  let letters := text.reverse.takeWhile Text.isAsciiLetter
  match text.reverse.dropWhile Text.isAsciiLetter with
  | '.' :: before => Nat.ble 2 letters.length && !before.isEmpty && before.all isDomainChar
  | _ => false

/-- A mailbox and a domain with an at sign between them. -/
def isEmail (text : Text) : Bool :=
  match text.dropWhile isMailboxChar with
  | '@' :: domain => !(text.takeWhile isMailboxChar).isEmpty && isDomain domain
  | _ => false

/-- Two to fifteen digits of which the first is not zero, perhaps behind a plus sign. -/
def isPhone (text : Text) : Bool :=
  let digits := match text with
    | '+' :: rest => rest
    | rest => rest
  match digits with
  | c :: rest =>
    Nat.ble 49 c.toNat && Nat.ble c.toNat 57 && Nat.ble 1 rest.length && Nat.ble rest.length 14 &&
      rest.all Text.isDecimalDigit
  | [] => false

/-- Is the character one that divides the digits of a telephone number? -/
def isPhoneSeparator (c : Char) : Bool :=
  Text.isSpace c || c = '-' || c = '(' || c = ')' || c = '.'

/-- The text without one hyphen in front. -/
def dropHyphen : Text → Text
  | '-' :: rest => rest
  | text => text

/-- Three, two and four digits, perhaps with hyphens between them. -/
def isSocialSecurity (text : Text) : Bool :=
  let second := dropHyphen (text.drop 3)
  let third := dropHyphen (second.drop 2)
  (text.take 3).length = 3 && (text.take 3).all Text.isDecimalDigit &&
    (second.take 2).length = 2 && (second.take 2).all Text.isDecimalDigit &&
    third.length = 4 && third.all Text.isDecimalDigit

/-- Letters and digits only. -/
def isAccountNumber (text : Text) : Bool := !text.isEmpty && text.all isAsciiAlphanumeric

/-- The digits of an integer behind its sign. -/
def integerDigits : Text → Text
  | '+' :: rest => rest
  | '-' :: rest => rest
  | text => text

/-- Digits, perhaps behind a sign. -/
def isInteger (text : Text) : Bool :=
  !(integerDigits text).isEmpty && (integerDigits text).all Text.isDecimalDigit

/-- The words for yes and no. -/
def booleanWords : List Text := ["true", "false", "1", "0", "y", "n", "yes", "no"]

def isBoolean (text : Text) : Bool := booleanWords.elem (Text.lower text)

/-- Does a decimal fit a column with so many digits, of which so many are behind the point? Without a scale the
digits behind the point do not count. -/
def fitsColumn (precision scale : Option Int) (d : Decimal) : Bool :=
  let places : Int := if d.exponent < 0 then -d.exponent else 0
  let whole : Int := max (Decimal.digitCount d.coefficient + d.exponent) 0
  (scale.all fun s => places ≤ s) && precision.all fun p => whole ≤ p - scale.getD 0

end FixedExtract.Format
