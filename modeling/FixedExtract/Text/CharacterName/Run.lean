import FixedExtract.Text.Basic
/-!
# Runs of names

The names of consecutive characters are mostly alike at the front, so they are kept as runs in which a name
only says how much of the name before it stays. A name is made of capitals, digits, spaces and hyphens, which
leaves the small letters for that number: `a` to `y` stand for 0 to 24, and `z` adds 25 to what follows it.
-/

namespace FixedExtract.Text

/-- The names of the characters from `first` on, in pieces. -/
structure NameRun where
  first : Nat
  pieces : List String
  deriving DecidableEq, Repr

/-- Is the character part of a number in a run? -/
def isRunNumeral (c : Char) : Bool := Nat.ble 97 c.toNat && Nat.ble c.toNat 122

/-- Reads a number. -/
def readRunNumber : Text → Nat × Text
  | [] => (0, [])
  | c :: rest =>
    if c = 'z' then
      let (more, rest) := readRunNumber rest
      (25 + more, rest)
    else (c.toNat - 97, rest)

/-- The code point of a name among the names of a run; `before` is the name in front of them. Every name
takes at least one character, so that the number of characters is enough fuel. -/
def findInRun (name : Text) : (fuel : Nat) → (code : Nat) → (before : Text) → Text → Option Nat
  | 0, _, _, _ => none
  | _, _, _, [] => none
  | fuel + 1, code, before, c :: rest =>
    let (kept, rest) := readRunNumber (c :: rest)
    let current := before.take kept ++ rest.takeWhile fun c => !isRunNumeral c
    if current = name then some code
    else findInRun name fuel (code + 1) current (rest.dropWhile fun c => !isRunNumeral c)

/-- The code point of a name in a run. -/
def NameRun.find? (run : NameRun) (name : Text) : Option Nat :=
  let names := run.pieces.flatMap String.toList
  findInRun name names.length run.first [] names

end FixedExtract.Text
