import FixedExtract.Value.Basic
import FixedExtract.Text.Integer
/-!
# Values as text

The text a value turns into where text is wanted. Text itself stays as it is at the top and is quoted
inside lists and maps; a date is written in its ISO form at the top and as a constructor inside. A
collection that holds itself has dots where it comes again. An integer of too many digits cannot be
written, nor can what holds one.
-/

namespace FixedExtract.Value

/-- How byte strings are shown. -/
def bytesText (bytes : List Nat) : Text :=
  let quote : Char := if bytes.elem 39 && !bytes.elem 34 then '"' else '\x27'
  'b' :: quote :: bytes.flatMap (fun n =>
    let c := Char.ofNat n
    if c = quote ∨ c = '\\' then ['\\', c]
    else if c = '\t' then ['\\', 't']
    else if c = '\n' then ['\\', 'n']
    else if c = '\r' then ['\\', 'r']
    else if n < 32 ∨ n ≥ 127 then '\\' :: 'x' :: Text.hex 2 n
    else [c]) ++ [quote]

/-- The parts between brackets, divided by commas. -/
def bracketed (open' close : Text) (parts : List Text) : Text :=
  open' ++ Text.join ", " parts ++ close

/-- A length of time as days, seconds and microseconds, naming the parts that are not zero. -/
def durationText (microseconds : Int) : Text :=
  let days := microseconds / 86400000000
  let rest := (microseconds % 86400000000).toNat
  let seconds := rest / 1000000
  let micro := rest % 1000000
  let parts : List Text :=
    (if days = 0 then [] else ["days=" ++ Text.ofInt days]) ++
    (if seconds = 0 then [] else ["seconds=" ++ Text.ofNat seconds]) ++
    (if micro = 0 then [] else ["microseconds=" ++ Text.ofNat micro])
  bracketed "datetime.timedelta(" ")" (if parts.isEmpty then ["0"] else parts)

def dateForm (d : Date) : Text :=
  bracketed "datetime.date(" ")" [Text.ofNat d.year, Text.ofNat d.month, Text.ofNat d.day]

def momentForm (m : Moment) : Text :=
  let fixed := [m.date.year, m.date.month, m.date.day, m.time.hour, m.time.minute]
  let second := if m.time.second = 0 ∧ m.time.microsecond = 0 then [] else [m.time.second]
  let micro := if m.time.microsecond = 0 then [] else [m.time.microsecond]
  let zone : List Text := match m.offset with
    | none => []
    | some 0 => ["tzinfo=datetime.timezone.utc"]
    | some offset => ["tzinfo=datetime.timezone(" ++ durationText offset ++ ")"]
  bracketed "datetime.datetime(" ")" ((fixed ++ second ++ micro).map Text.ofNat ++ zone)

/-- What stands for a collection where it comes again inside itself. -/
def ellipsis : Value → Text
  | .map _ => "\x7b...\x7d"
  | _ => "[...]"

mutual

/-- The text of a value inside a list or a map. `around` are the labels of the collections it is in, with
what stands for them. -/
def formWithin (around : List (Nat × Text)) : Value → Text
  | .null => "None"
  | .bool b => if b then "True" else "False"
  | .int n => Text.ofInt n
  | .float x => x.text
  | .text t => Text.quoted t
  | .date d => dateForm d
  | .moment m => momentForm m
  | .bytes bs => bytesText bs
  | .list items => bracketed "[" "]" (formsWithin around items)
  | .tuple items =>
    bracketed "(" (if items.length = 1 then ",)" else ")") (formsWithin around items)
  | .set items =>
    if items.isEmpty then "set()" else bracketed "\x7b" "\x7d" (formsWithin around items)
  | .map entries => bracketed "\x7b" "\x7d" (entryFormsWithin around entries)
  | .ring label v =>
    match around.lookup label with
    | some dots => dots
    | none => formWithin ((label, v.ellipsis) :: around) v
  | .again label => (around.lookup label).getD []

def formsWithin (around : List (Nat × Text)) : List Value → List Text
  | [] => []
  | v :: rest => formWithin around v :: formsWithin around rest

def entryFormsWithin (around : List (Nat × Text)) : List (Value × Value) → List Text
  | [] => []
  | (k, v) :: rest => (formWithin around k ++ ": " ++ formWithin around v) :: entryFormsWithin around rest

end

/-- The text of a value that stands alone. -/
def form (v : Value) : Text := formWithin [] v

/-- The text of a value. -/
def display : Value → Text
  | .text t => t
  | .date d => d.text
  | .moment m => m.text ' '
  | other => form other

/-! ## Values that cannot be written -/

mutual

/-- Can the value be written as text? -/
def isWritable : Value → Bool
  | .int n => Nat.ble (Text.ofNat n.natAbs).length Text.maxDigits
  | .list items => areWritable items
  | .tuple items => areWritable items
  | .set items => areWritable items
  | .map entries => entriesAreWritable entries
  | .ring _ v => isWritable v
  | _ => true

def areWritable : List Value → Bool
  | [] => true
  | v :: rest => isWritable v && areWritable rest

def entriesAreWritable : List (Value × Value) → Bool
  | [] => true
  | (k, v) :: rest => isWritable k && isWritable v && entriesAreWritable rest

end

end FixedExtract.Value
