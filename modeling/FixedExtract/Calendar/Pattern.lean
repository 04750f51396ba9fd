import FixedExtract.Calendar.Date
import FixedExtract.Regex.Class
/-!
# Date patterns

A pattern such as `yyyy-MM-dd HH:mm:ss` says how a date is written. It is cut from left to right into fields,
quoted literals and other characters, and a text is a date of the pattern when two things hold. It has the
shape of the pattern: every literal as it stands, and for every field a piece with the digits or letters the
field asks for. And it can be read: from left to right, each field takes the first of its readings that lets
the rest be read, nothing is left over, and what was read is a moment of the calendar.

Reading looks at less than the shape does. It knows fields by their directive alone, so that `M` and `MM` are
one, takes literals in either case, and any run of white space for any other.
-/

namespace FixedExtract.DatePattern

/-! ## Fields -/

/-- What is written as a number of one or two digits. -/
inductive Unit where
  | month
  | day
  | hour
  | clockHour
  | minute
  | second
  deriving DecidableEq, Repr

/-- A field of a pattern. A number is padded when its letter stands twice. -/
inductive Field where
  | year
  | yearOfCentury
  | monthName
  | shortMonthName
  | number (unit : Unit) (padded : Bool)
  | millisecond
  | halfDay
  deriving DecidableEq, Repr

namespace Unit

def letter : Unit → Char
  | .month => 'M'
  | .day => 'd'
  | .hour => 'H'
  | .clockHour => 'h'
  | .minute => 'm'
  | .second => 's'

/-- The least and the greatest number. A minute may have leap seconds. -/
def bounds : Unit → Nat × Nat
  | .month => (1, 12)
  | .day => (1, 31)
  | .hour => (0, 23)
  | .clockHour => (1, 12)
  | .minute => (0, 59)
  | .second => (0, 61)

end Unit

namespace Field

/-- The letters of a field. -/
def letters : Field → Text
  | .year => "yyyy"
  | .yearOfCentury => "yy"
  | .monthName => "MMMM"
  | .shortMonthName => "MMM"
  | .number unit true => [unit.letter, unit.letter]
  | .number unit false => [unit.letter]
  | .millisecond => "SSS"
  | .halfDay => "a"

/-- The fields in the order in which they are recognised: the longer one of two that start alike is first. -/
def all : List Field :=
  [.year, .yearOfCentury, .monthName, .shortMonthName, .number .month true, .number .month false,
   .number .day true, .number .day false, .number .hour true, .number .hour false,
   .number .clockHour true, .number .clockHour false, .number .minute true, .number .minute false,
   .number .second true, .number .second false, .millisecond, .halfDay]

/-- The letter by which reading knows a field. -/
def directive : Field → Char
  | .year => 'Y'
  | .yearOfCentury => 'y'
  | .monthName => 'B'
  | .shortMonthName => 'b'
  | .number .month _ => 'm'
  | .number .day _ => 'd'
  | .number .hour _ => 'H'
  | .number .clockHour _ => 'I'
  | .number .minute _ => 'M'
  | .number .second _ => 'S'
  | .millisecond => 'f'
  | .halfDay => 'p'

end Field

/-! ## Parts -/

/-- A part of a pattern: a field, a literal between apostrophes, or a character that stands for itself. -/
inductive Part where
  | field (field : Field)
  | quoted (text : Text)
  | plain (c : Char)
  deriving DecidableEq, Repr

namespace Part

/-- How the part stands in the pattern. -/
def written : Part → Text
  | .field f => f.letters
  | .quoted text => '\x27' :: text ++ ['\x27']
  | .plain c => [c]

/-- The text that stands for itself. -/
def literal : Part → Text
  | .field _ => []
  | .quoted text => text
  | .plain c => [c]

/-- The part at the front of a pattern that starts with `c`. An apostrophe without a second one is a
character like any other. -/
def first (c : Char) (rest : Text) : Part :=
  match Field.all.find? fun f => f.letters.isPrefixOf (c :: rest) with
  | some f => .field f
  | none =>
    if c = '\x27' ∧ '\x27' ∈ rest then .quoted (rest.takeWhile (· ≠ '\x27')) else .plain c

end Part

/-- The parts of a pattern whose first `skip` characters belong to the part before. -/
def partsAfter : (skip : Nat) → Text → List Part
  | _, [] => []
  | skip + 1, _ :: rest => partsAfter skip rest
  | 0, c :: rest => Part.first c rest :: partsAfter ((Part.first c rest).written.length - 1) rest

/-- The parts of a pattern. -/
def partsOf (pattern : Text) : List Part := partsAfter 0 pattern

/-! ## Shape -/

/-- A letter or a number that is no decimal digit. -/
def isNameLetter (c : Char) : Bool := Text.isAlphanumeric c && !Text.isDecimalDigit c

/-- May a field be written like this? -/
def Field.admits (text : Text) : Field → Bool
  | .year => text.length = 4 && text.all Text.isAsciiDigit
  | .yearOfCentury => text.length = 2 && text.all Text.isAsciiDigit
  | .monthName => !text.isEmpty && text.all isNameLetter
  | .shortMonthName => !text.isEmpty && text.all isNameLetter
  | .number _ padded =>
    (text.length = 2 || (!padded && text.length = 1)) && text.all Text.isAsciiDigit
  | .millisecond => text.length = 3 && text.all Text.isAsciiDigit
  | .halfDay =>
    match text with
    | [a, m] => (a = 'a' || a = 'A' || a = 'p' || a = 'P') && (m = 'm' || m = 'M')
    | _ => false

/-- Has a text the shape of the parts? -/
def hasShape : List Part → Text → Bool
  | [], text => text.isEmpty
  | .field field :: parts, text =>
    (List.range (text.length + 1)).any fun n =>
      field.admits (text.take n) && hasShape parts (text.drop n)
  | .quoted literal :: parts, text =>
    literal.isPrefixOf text && hasShape parts (text.drop literal.length)
  | .plain c :: parts, text => [c].isPrefixOf text && hasShape parts (text.drop 1)

/-! ## Directives -/

/-- A literal with every percent sign doubled. -/
def escapePercent (text : Text) : Text := text.flatMap fun c => if c = '%' then ['%', '%'] else [c]

/-- The directive of a field, or a literal. -/
def Part.directive : Part → Text
  | .field f => ['%', f.directive]
  | part => escapePercent part.literal

/-- The pattern with each field as a directive. -/
def directives (pattern : Text) : Text := (partsOf pattern).flatMap Part.directive

/-! ## Reading -/

/-- What is read in one go: a field, a character or a run of white space. -/
inductive Mark where
  | field (field : Field)
  | char (c : Char)
  | space
  deriving DecidableEq, Repr

/-- The marks of a part. -/
def Part.marks : Part → List Mark
  | .field f => [.field f]
  | part => part.literal.map fun c => if Text.isSpace c then .space else .char c

/-- Marks with each run of white space as one. -/
def mergeSpace : List Mark → List Mark
  | .space :: rest =>
    match mergeSpace rest with
    | .space :: more => .space :: more
    | more => .space :: more
  | mark :: rest => mark :: mergeSpace rest
  | [] => []

/-- The marks of a pattern. -/
def marksOf (pattern : Text) : List Mark := mergeSpace ((partsOf pattern).flatMap Part.marks)

/-- The value of an ASCII digit, or of any decimal digit. -/
def digit? (ascii : Bool) (c : Char) : Option Nat :=
  if ascii && !Text.isAsciiDigit c then none else Text.decimalValue? c

/-- The readings of a number within bounds, each with the text behind it: two digits before one. Where all
ten numbers of a decade are within bounds, the last digit may be of any script. -/
def numberReadings (low high : Nat) (text : Text) : List (Nat × Text) :=
  let double := match text with
    | a :: b :: rest =>
      match digit? true a with
      | some tens =>
        let whole := low ≤ tens * 10 ∧ tens * 10 + 9 ≤ high
        match digit? (!whole) b with
        | some ones =>
          let n := tens * 10 + ones
          if low ≤ n ∧ n ≤ high then [(n, rest)] else []
        | none => []
      | none => []
    | _ => []
  let single := match text with
    | a :: rest =>
      match digit? (low ≠ 0) a with
      | some n => if low ≤ n then [(n, rest)] else []
      | none => []
    | [] => []
  double ++ single

/-- The reading of exactly `count` digits of any script. -/
def digitsReading (count : Nat) (text : Text) : List (Nat × Text) :=
  let digits := (text.take count).filterMap (digit? false)
  if digits.length = count then [(Text.valueOfDigits 10 digits, text.drop count)] else []

/-- The readings of a fraction of a second of at most six digits, the longest first. -/
def fractionReadings (text : Text) : List (Nat × Text) :=
  let digits := (text.take 6).takeWhile Text.isAsciiDigit
  (List.range digits.length).reverse.map fun n =>
    let kept := digits.take (n + 1)
    (Text.valueOfDigits 10 (kept.map Text.asciiDigitValue) * Nat.pow 10 (5 - n), text.drop (n + 1))

def monthNames : List Text :=
  ["january".toList, "february".toList, "march".toList, "april".toList, "may".toList, "june".toList,
   "july".toList, "august".toList, "september".toList, "october".toList, "november".toList,
   "december".toList]

/-- The reading of one of some words in either case: its number from `start` on. -/
def wordReadings (start : Nat) (words : List Text) (text : Text) : List (Nat × Text) :=
  (words.zipIdx start).filterMap fun (word, index) =>
    if Text.lower (text.take word.length) == word then some (index, text.drop word.length) else none

/-- The readings of a field. -/
def Field.readings (text : Text) : Field → List (Nat × Text)
  | .year => digitsReading 4 text
  | .yearOfCentury =>
    (digitsReading 2 text).map fun (n, rest) => (if n ≤ 68 then n + 2000 else n + 1900, rest)
  | .monthName => wordReadings 1 monthNames text
  | .shortMonthName => wordReadings 1 (monthNames.map (·.take 3)) text
  | .number unit _ =>
    let readings := numberReadings unit.bounds.1 unit.bounds.2 text
    match unit, text with
    | .day, ' ' :: c :: rest =>
      match digit? true c with
      | some n => if n = 0 then readings else readings ++ [(n, rest)]
      | none => readings
    | _, _ => readings
  | .millisecond => fractionReadings text
  | .halfDay => wordReadings 0 ["am".toList, "pm".toList] text

/-- Are two characters the same in either case? -/
def sameLetter (a b : Char) : Bool :=
  (Regex.Test.ofCode { Regex.Flags.none with ignoreCase := true } false a.toNat).holds b

/-- Reads marks from the start of a text: what each field stands for, and the text behind them. Each mark
takes the first of its readings that lets the others be read. -/
def readMarks : List Mark → Text → Option (List (Field × Nat) × Text)
  | [], text => some ([], text)
  | .field field :: marks, text =>
    (field.readings text).findSome? fun (n, rest) =>
      (readMarks marks rest).map fun (values, rest) => ((field, n) :: values, rest)
  | .char c :: marks, text =>
    match text with
    | d :: rest => if sameLetter c d then readMarks marks rest else none
    | [] => none
  | .space :: marks, text =>
    (List.range (text.takeWhile Text.isSpace).length).reverse.findSome? fun n =>
      readMarks marks (text.drop (n + 1))

/-- A clock hour in the first or the second half of the day. -/
def hourOfClock (half hour : Nat) : Nat := hour % 12 + 12 * half

/-- Puts the value of a field into a moment. `half` is the half of the day that the text names. -/
def Field.put (half : Nat) (m : Moment) : Field × Nat → Moment
  | (.year, n) => { m with date := { m.date with year := n } }
  | (.yearOfCentury, n) => { m with date := { m.date with year := n } }
  | (.monthName, n) => { m with date := { m.date with month := n } }
  | (.shortMonthName, n) => { m with date := { m.date with month := n } }
  | (.number .month _, n) => { m with date := { m.date with month := n } }
  | (.number .day _, n) => { m with date := { m.date with day := n } }
  | (.number .hour _, n) => { m with time := { m.time with hour := n } }
  | (.number .clockHour _, n) => { m with time := { m.time with hour := hourOfClock half n } }
  | (.number .minute _, n) => { m with time := { m.time with minute := n } }
  | (.number .second _, n) => { m with time := { m.time with second := n } }
  | (.millisecond, n) => { m with time := { m.time with microsecond := n } }
  | (.halfDay, _) => m

/-- The moment that fields make, with the start of the year 1900 for what they leave open. Of two fields for
the same thing the later one counts. -/
def momentOf (values : List (Field × Nat)) : Moment :=
  values.foldl (Field.put ((values.lookup .halfDay).getD 0)) ⟨⟨1900, 1, 1⟩, ⟨0, 0, 0, 0⟩, none⟩

/-- Reads a whole text as a moment of the calendar. -/
def readMoment (pattern text : Text) : Option Moment :=
  match readMarks (marksOf pattern) text with
  | some (values, []) =>
    let m := momentOf values
    if m.date.isReal && m.time.isReal then some m else none
  | _ => none

/-! ## Dates of a pattern -/

/-- Has a list no element twice? -/
def allDistinct : List Char → Bool
  | [] => true
  | c :: rest => !rest.elem c && allDistinct rest

/-- Does the pattern have each directive once at most? -/
def hasDistinctFields (pattern : Text) : Bool :=
  allDistinct ((partsOf pattern).filterMap fun
    | .field field => some field.directive
    | _ => none)

/-- Does a text have the shape of the pattern? -/
def hasShapeOf (pattern text : Text) : Bool := hasShape (partsOf pattern) text

/-- Is a text a date of the pattern? None when it has the shape of the pattern, but the pattern has a
directive twice. -/
def isDate? (pattern text : Text) : Option Bool :=
  if !hasShapeOf pattern text then some false
  else if !hasDistinctFields pattern then none
  else some (readMoment pattern text).isSome

end FixedExtract.DatePattern
