import FixedExtract.Text.Class
/-!
# Tags

A tag says of what type a node is. A plain scalar without one gets its tag from how it is written: these
are the rules of YAML 1.1, by which `yes`, `0x1F`, `1:30` and `2024-01-01` are no texts.
-/

namespace FixedExtract.Yaml

inductive Tag where
  | null
  | bool
  | int
  | float
  | binary
  | timestamp
  | omap
  | pairs
  | set
  | text
  | list
  | map
  | merge
  | value
  | other
  deriving DecidableEq, Repr

namespace Tag

/-- What the tags of the core types start with. -/
def corePrefix : Text := "tag:yaml.org,2002:"

/-- The names of the core types. -/
def names : List (Text × Tag) :=
  [("null", .null), ("bool", .bool), ("int", .int), ("float", .float), ("binary", .binary),
   ("timestamp", .timestamp), ("omap", .omap), ("pairs", .pairs), ("set", .set), ("str", .text),
   ("seq", .list), ("map", .map), ("merge", .merge), ("value", .value)]

/-- The tag with a full name. -/
def ofName (name : Text) : Tag :=
  if corePrefix.isPrefixOf name then (names.lookup (name.drop corePrefix.length)).getD .other
  else .other

end Tag

/-! ## How scalars are written -/

def nullWords : List Text := ["~", "null", "Null", "NULL"]

def boolWords : List Text :=
  ["yes", "Yes", "YES", "no", "No", "NO", "true", "True", "TRUE", "false", "False", "FALSE",
   "on", "On", "ON", "off", "Off", "OFF"]

def infinityWords : List Text := [".inf", ".Inf", ".INF"]

def nanWords : List Text := [".nan", ".NaN", ".NAN"]

/-- The text without a sign in front. -/
def unsigned : Text → Text
  | '+' :: rest => rest
  | '-' :: rest => rest
  | text => text

/-- A digit or an underscore. -/
def isSpacedDigit (c : Char) : Bool := Text.isAsciiDigit c || c = '_'

/-- One or two digits of a number to base sixty. -/
def isSixtieth (text : Text) : Bool :=
  match text with
  | [c] => Text.isAsciiDigit c
  | [c, d] => Nat.ble 48 c.toNat && Nat.ble c.toNat 53 && Text.isAsciiDigit d
  | _ => false

/-- A digit, not zero if `nonzero`, and more digits with underscores. -/
def isDigitRun (nonzero : Bool) : Text → Bool
  | [] => false
  | c :: rest => Text.isAsciiDigit c && !(nonzero && c = '0') && rest.all isSpacedDigit

/-- Parts divided by colons, all but the first being sixtieths. -/
def isBaseSixty (nonzero : Bool) (text : Text) : Bool :=
  match Text.splitOn ':' text with
  | first :: second :: rest => isDigitRun nonzero first && (second :: rest).all isSixtieth
  | _ => false

/-- Is the text written like an integer? -/
def isInteger (text : Text) : Bool :=
  match unsigned text with
  | ['0'] => true
  | '0' :: 'b' :: digits =>
    !digits.isEmpty && digits.all fun c => c = '0' || c = '1' || c = '_'
  | '0' :: 'x' :: digits =>
    !digits.isEmpty && digits.all fun c => (Text.hexDigit? c).isSome || c = '_'
  | '0' :: digits => digits.all fun c => (Nat.ble 48 c.toNat && Nat.ble c.toNat 55) || c = '_'
  | digits => isDigitRun true digits || isBaseSixty true digits

/-- An exponent with a sign, or none. -/
def isExponent : Text → Bool
  | [] => true
  | e :: sign :: digits =>
    (e = 'e' || e = 'E') && (sign = '+' || sign = '-') && !digits.isEmpty &&
      digits.all Text.isAsciiDigit
  | _ => false

/-- Is the text written like a number with a fraction? -/
def isFloat (text : Text) : Bool :=
  let positive := unsigned text
  let whole := positive.takeWhile (· ≠ '.')
  match positive.dropWhile (· ≠ '.') with
  | [] => false
  | _ :: after =>
    let fraction := after.takeWhile isSpacedDigit
    let rest := after.dropWhile isSpacedDigit
    (isDigitRun false whole && isExponent rest) ||
    (isBaseSixty false whole && rest.isEmpty) ||
    (text.head? == some '.' && isDigitRun false fraction && isExponent rest) ||
    infinityWords.elem positive || nanWords.elem text

/-- The digits at the start of a text, of which there are between `least` and `most`, and the rest. -/
def digitsBetween (least most : Nat) (text : Text) : Option (Text × Text) :=
  let digits := (text.take most).takeWhile Text.isAsciiDigit
  if digits.length < least then none else some (digits, text.drop digits.length)

/-- The text behind a character that it starts with. -/
def after? (c : Char) : Text → Option Text
  | d :: rest => if d = c then some rest else none
  | [] => none

/-- A blank of the white space inside a timestamp. -/
def isTimestampBlank (c : Char) : Bool := c = ' ' || c = '\t'

/-- How the zone of a timestamp is written. -/
inductive WrittenZone where
  | none
  | universal
  | offset (negative : Bool) (hour minute : Text)
  deriving DecidableEq, Repr

/-- The digits of a timestamp. -/
structure WrittenTimestamp where
  year : Text
  month : Text
  day : Text
  time : Option (Text × Text × Text)
  fraction : Text
  zone : WrittenZone
  deriving DecidableEq, Repr

/-- Takes a zone apart that makes up the whole text. -/
def writtenZone? : Text → Option WrittenZone
  | [] => some .none
  | ['Z'] => some .universal
  | c :: rest =>
    if c = '+' ∨ c = '-' then do
      let (hour, rest) ← digitsBetween 1 2 rest
      match rest with
      | [] => some (.offset (c = '-') hour [])
      | ':' :: rest =>
        let (minute, rest) ← digitsBetween 2 2 rest
        if rest.isEmpty then some (.offset (c = '-') hour minute) else none
      | _ => none
    else none

/-- Takes a timestamp apart: a date, and perhaps a time, a fraction and a zone. -/
def writtenTimestamp? (text : Text) : Option WrittenTimestamp := do
  let (year, rest) ← digitsBetween 4 4 text
  let (month, rest) ← digitsBetween 1 2 (← after? '-' rest)
  let (day, rest) ← digitsBetween 1 2 (← after? '-' rest)
  if rest.isEmpty then some ⟨year, month, day, none, [], .none⟩
  else
    let time ← match rest with
      | 'T' :: time => some time
      | 't' :: time => some time
      | c :: time => if isTimestampBlank c then some (time.dropWhile isTimestampBlank) else none
      | [] => none
    let (hour, rest) ← digitsBetween 1 2 time
    let (minute, rest) ← digitsBetween 2 2 (← after? ':' rest)
    let (second, rest) ← digitsBetween 2 2 (← after? ':' rest)
    let (fraction, rest) : Text × Text := match rest with
      | '.' :: rest => (rest.takeWhile Text.isAsciiDigit, rest.dropWhile Text.isAsciiDigit)
      | rest => ([], rest)
    -- Blanks may stand in front of a zone, but not without one.
    let blanks := rest.takeWhile isTimestampBlank
    let zone ← writtenZone? (rest.drop blanks.length)
    if zone = .none ∧ !blanks.isEmpty then none
    else some ⟨year, month, day, some (hour, minute, second), fraction, zone⟩

/-- Is the text written like a timestamp? A date that stands alone has two digits for month and day. -/
def isTimestamp (text : Text) : Bool :=
  match writtenTimestamp? text with
  | some t => t.time.isSome || (t.month.length == 2 && t.day.length == 2)
  | none => false

/-- The text without a line end behind it. -/
def withoutLineEnd (text : Text) : Text :=
  if text.getLast? = some '\n' then text.dropLast else text

/-- The tag of a plain scalar. -/
def plainTag (text : Text) : Tag :=
  if text.isEmpty then .null
  else
    let word := withoutLineEnd text
    if boolWords.elem word then .bool
    else if nullWords.elem word then .null
    else if isFloat word then .float
    else if isInteger word then .int
    else if isTimestamp word then .timestamp
    else if word = ("<<" : Text) then .merge
    else if word = ("=" : Text) then .value
    else if [("!" : Text), "&", "*"].elem word then .other
    else .text

end FixedExtract.Yaml
