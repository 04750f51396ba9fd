import FixedExtract.Calendar.Date
import FixedExtract.Text.Class
/-!
# Reading timestamps

A timestamp is a date in one of the ISO 8601 forms — calendar or week date, with or without hyphens —
and perhaps, after any one separating character, a time of day with an offset. Times have two digits a
part, all parts divided by colons or none, and any number of fraction digits, of which six count.
-/

namespace FixedExtract.Timestamp

/-- The value of the first `count` characters, all of which must be digits, and the rest. -/
def takeDigits (count : Nat) (text : Text) : Option (Nat × Text) :=
  let digits := text.take count
  if digits.length = count ∧ digits.all Text.isAsciiDigit then
    some (Text.valueOfDigits 10 (digits.map Text.asciiDigitValue), text.drop count)
  else none

def isDigitAt (text : Text) (index : Nat) : Bool :=
  match text[index]? with
  | some c => Text.isAsciiDigit c
  | none => false

/-- The length of the date at the start of a timestamp. A week date may take a day of the week, which
is told from the start of a time by what follows. -/
def dateLength (text : Text) : Option Nat :=
  let length := text.length
  if length < 7 then none
  else if length = 7 then some 7
  else if text[4]? = some '-' then
    if text[5]? = some 'W' then
      if length > 8 ∧ text[8]? = some '-' then
        if length = 9 then none
        else if length > 10 ∧ isDigitAt text 10 then some 8
        else some 10
      else some 8
    else some 10
  else if text[4]? = some 'W' then
    let digits := 7 + ((text.drop 7).takeWhile Text.isAsciiDigit).length
    if digits < 9 then some digits
    else if digits % 2 = 0 then some 7
    else some 8
  else some 8

/-- The date of a day of an ISO week. -/
def ofWeekDate (year week day : Nat) : Option Date :=
  let firstDay := Date.daysBeforeYear year + 1
  -- Day number 1 is a Monday; weeks start on Monday and belong to the year of their Thursday.
  let firstWeekday := (firstDay + 6) % 7
  let hasWeek53 := firstWeekday = 3 ∨ (firstWeekday = 2 ∧ Date.isLeapYear year)
  if year = 0 ∨ year > 9999 ∨ week = 0 ∨ (week ≥ 53 ∧ ¬(week = 53 ∧ hasWeek53)) ∨ day = 0 ∨ day > 7
  then none
  else
    let weekOneMonday : Int :=
      if firstWeekday > 3 then (firstDay : Int) - firstWeekday + 7 else firstDay - firstWeekday
    let number := weekOneMonday + ((week - 1) * 7 + (day - 1) : Nat)
    if number < 1 ∨ number > 3652059 then none else some (Date.ofDayNumber number.toNat)

/-- Reads a date that takes up the whole text. -/
def readDate (text : Text) : Option Date := do
  let (year, rest) ← takeDigits 4 text
  let (hyphens, rest) := match rest with
    | '-' :: rest => (true, rest)
    | rest => (false, rest)
  match rest with
  | 'W' :: rest =>
    let (week, rest) ← takeDigits 2 rest
    match rest with
    | [] => ofWeekDate year week 1
    | c :: more =>
      if hyphens ∧ c ≠ '-' then none
      let (day, rest) ← takeDigits 1 (if hyphens then more else c :: more)
      if rest.isEmpty then ofWeekDate year week day else none
  | rest =>
    let (month, rest) ← takeDigits 2 rest
    let rest ← match hyphens, rest with
      | true, '-' :: rest => some rest
      | true, _ => none
      | false, rest => some rest
    let (day, rest) ← takeDigits 2 rest
    if rest.isEmpty then
      let d : Date := ⟨year, month, day⟩
      if d.isReal then some d else none
    else none

/-- The parts of a time of day after the hour, the microseconds, and whether the text was used up. A
time in front of an offset may leave some of its text unused. -/
structure Parts where
  values : List Nat
  microsecond : Nat
  complete : Bool

/-- Reads the fraction of a second, of which six digits count. -/
def readFraction (text : Text) : Option Parts := do
  let kept := text.take 6
  let (value, _) ← takeDigits kept.length kept
  some ⟨[], value * Nat.pow 10 (6 - kept.length), (text.drop 6).all Text.isAsciiDigit⟩

/-- Reads the parts after the hour, minute or second just read: `more` says how many may come, and
`colons` whether they are divided by colons, once that is known. A single ASCII character that is left
over is not looked at. -/
def readParts (colons : Option Bool) : Nat → Text → Option Parts
  | _, [] => some ⟨[], 0, true⟩
  | more, c :: rest =>
    let colons := colons.getD (c = ':')
    if rest.isEmpty ∧ c.toNat < 128 then some ⟨[], 0, false⟩
    else if c = '.' ∨ c = ',' then readFraction rest
    else if colons ∧ c ≠ ':' then none
    else
      let next := if colons then rest else c :: rest
      match more with
      | 0 => readFraction next
      | more + 1 => do
        let (value, after) ← takeDigits 2 next
        let parts ← readParts (some colons) more after
        some { parts with values := value :: parts.values }

/-- Reads a time of day, and says whether the text was used up. -/
def readTime (text : Text) : Option (TimeOfDay × Bool) := do
  let (hour, rest) ← takeDigits 2 text
  let parts ← readParts none 2 rest
  some (⟨hour, parts.values.getD 0 0, parts.values.getD 1 0, parts.microsecond⟩, parts.complete)

/-- Reads an offset: `Z`, or a sign and a time. An offset is less than a day. -/
def readOffset : Text → Option Int
  | ['Z'] => some 0
  | c :: rest =>
    if c = '+' ∨ c = '-' then do
      let (t, complete) ← readTime rest
      let size : Int := ((t.hour * 60 + t.minute) * 60 + t.second) * 1000000 + t.microsecond
      if complete ∧ size < 86400000000 then some (if c = '-' then -size else size) else none
    else none
  | [] => none

/-- Does an offset start at this character? -/
def startsOffset (c : Char) : Bool := c = '+' || c = '-' || c = 'Z'

/-- Reads a timestamp. -/
def read? (text : Text) : Option Moment := do
  let length ← dateLength text
  let date ← readDate (text.take length)
  match text.drop length with
  | [] => some ⟨date, ⟨0, 0, 0, 0⟩, none⟩
  | _ :: rest =>
    let (time, complete) ← readTime (rest.takeWhile fun c => !startsOffset c)
    let offset ← match rest.dropWhile fun c => !startsOffset c with
      | [] => if complete then some none else none
      | written => (readOffset written).map some
    if time.isReal then some ⟨date, time, offset⟩ else none

end FixedExtract.Timestamp
