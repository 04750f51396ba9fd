import FixedExtract.Text.Basic
/-!
# Dates and times

Dates of the proleptic Gregorian calendar, times of day down to the microsecond, and the moment that
both make together, perhaps with an offset from universal time.
-/

namespace FixedExtract

structure Date where
  year : Nat
  month : Nat
  day : Nat
  deriving DecidableEq, Repr, Inhabited

structure TimeOfDay where
  hour : Nat
  minute : Nat
  second : Nat
  microsecond : Nat
  deriving DecidableEq, Repr, Inhabited

/-- A date and a time of day, with the offset from universal time in microseconds when it is known. -/
structure Moment where
  date : Date
  time : TimeOfDay
  offset : Option Int
  deriving DecidableEq, Repr, Inhabited

/-- A number with zeros in front to make two digits. -/
def twoDigits (n : Nat) : Text :=
  let digits := Text.ofNat n
  List.replicate (2 - digits.length) '0' ++ digits

/-- A number with zeros in front to make `width` digits. -/
def zeroFilled (width n : Nat) : Text :=
  let digits := Text.ofNat n
  List.replicate (width - digits.length) '0' ++ digits

namespace Date

def isLeapYear (year : Nat) : Bool :=
  year % 4 == 0 && (year % 100 != 0 || year % 400 == 0)

/-- The number of days of a month from 1 to 12. -/
def daysInMonth (year month : Nat) : Nat :=
  if month = 2 then if isLeapYear year then 29 else 28
  else if month = 4 ∨ month = 6 ∨ month = 9 ∨ month = 11 then 30
  else 31

/-- Is this a date of the years 1 to 9999? -/
def isReal (d : Date) : Bool :=
  1 ≤ d.year && d.year ≤ 9999 && 1 ≤ d.month && d.month ≤ 12 && 1 ≤ d.day &&
    d.day ≤ daysInMonth d.year d.month

/-- The number of days from the start of year 1 to the start of the year. -/
def daysBeforeYear (year : Nat) : Nat :=
  let y := year - 1
  y * 365 + y / 4 - y / 100 + y / 400

/-- The number of days from the start of the year to the start of the month. -/
def daysBeforeMonth (year month : Nat) : Nat :=
  ((List.range (month - 1)).map fun m => daysInMonth year (m + 1)).foldr (· + ·) 0

/-- The day number of a date; the first of January of year 1 has number 1. -/
def dayNumber (d : Date) : Nat :=
  daysBeforeYear d.year + daysBeforeMonth d.year d.month + d.day

/-- The month and day of the `n`-th day of a year, counting from zero. -/
def monthDay (year n : Nat) : Nat × Nat :=
  (List.range 12).foldr
    (fun m found =>
      let before := daysBeforeMonth year (m + 1)
      if before ≤ n ∧ n < before + daysInMonth year (m + 1) then (m + 1, n - before + 1)
      else found)
    (12, 31)

/-- The date with a day number from 1 on. -/
def ofDayNumber (number : Nat) : Date :=
  -- The year guessed from the mean length is at most one too large.
  let guess := (number - 1) * 400 / 146097 + 1
  let year := if daysBeforeYear guess + 1 > number then guess - 1 else
    if daysBeforeYear (guess + 1) + 1 ≤ number then guess + 1 else guess
  let (month, day) := monthDay year (number - 1 - daysBeforeYear year)
  ⟨year, month, day⟩

/-- The text `yyyy-MM-dd`. -/
def text (d : Date) : Text :=
  zeroFilled 4 d.year ++ '-' :: twoDigits d.month ++ '-' :: twoDigits d.day

end Date

namespace TimeOfDay

def isReal (t : TimeOfDay) : Bool :=
  t.hour < 24 && t.minute < 60 && t.second < 60 && t.microsecond < 1000000

/-- The text `HH:mm:ss`, with six more digits unless the microsecond is zero. -/
def text (t : TimeOfDay) : Text :=
  twoDigits t.hour ++ ':' :: twoDigits t.minute ++ ':' :: twoDigits t.second ++
    (if t.microsecond = 0 then [] else '.' :: zeroFilled 6 t.microsecond)

end TimeOfDay

namespace Moment

/-- An offset as sign, hours and minutes, with seconds and microseconds where they are not zero. -/
def offsetText (offset : Int) : Text :=
  let size := offset.natAbs
  let seconds := size / 1000000
  let micro := size % 1000000
  (if offset < 0 then '-' else '+') :: twoDigits (seconds / 3600) ++
    ':' :: twoDigits (seconds / 60 % 60) ++
    (if seconds % 60 = 0 ∧ micro = 0 then [] else ':' :: twoDigits (seconds % 60)) ++
    (if micro = 0 then [] else '.' :: zeroFilled 6 micro)

/-- The date and the time with a separator between them, and the offset. -/
def text (separator : Char) (m : Moment) : Text :=
  m.date.text ++ separator :: m.time.text ++
    (match m.offset with
     | some offset => offsetText offset
     | none => [])

/-- The moment of a count of microseconds from the first of January 1970, in universal time. -/
def ofEpoch (microseconds : Int) : Moment :=
  let day := microseconds / 86400000000
  let rest := (microseconds % 86400000000).toNat
  let seconds := rest / 1000000
  ⟨Date.ofDayNumber (day + 719163).toNat,
    ⟨seconds / 3600, seconds / 60 % 60, seconds % 60, rest % 1000000⟩, some 0⟩

end Moment
end FixedExtract
