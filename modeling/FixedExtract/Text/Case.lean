import FixedExtract.Text.Class
import FixedExtract.Text.CaseMaps
/-!
# Upper and lower case

Full case mapping of text. Two things are not letter by letter: a capital may expand to several code
points, and a capital sigma becomes the final sigma at the end of a word. The one-to-one maps
`lowerOne` and `upperOne` are kept beside them for comparing single characters.
-/

namespace FixedExtract.Text

namespace CaseRun

/-- Is the code point one of the run's? -/
def contains (run : CaseRun) (n : Nat) : Bool :=
  Nat.ble run.first n && Nat.ble n run.last && (n - run.first) % run.step == 0

/-- Is one of the run's code points between `low` and `high`? -/
def meets (run : CaseRun) (low high : Nat) : Bool :=
  let steps := (low - run.first + run.step - 1) / run.step
  let next := run.first + steps * run.step
  Nat.ble next run.last && Nat.ble next high

end CaseRun

/-- The image of a code point under a list of runs; a code point in no run stays. -/
def mapByRuns (runs : List CaseRun) (c : Char) : Char :=
  match runs.find? (·.contains c.toNat) with
  | some run => Char.ofNat (c.toNat + run.shift).toNat
  | none => c

/-- The single small letter of a character. -/
def lowerOne (c : Char) : Char := mapByRuns lowerRuns c

/-- The small form of a character outside any context. -/
def lowerChar (c : Char) : Text :=
  if c = '\u0130' then ['i', '\u0307'] else [lowerOne c]

/-- The capital form of a character. -/
def upperChar (c : Char) : Text :=
  match upperExpansions.lookup c.toNat with
  | some points => points.map Char.ofNat
  | none => [mapByRuns upperRuns c]

/-- The single capital of a character: the first one, when it becomes several. -/
def upperOne (c : Char) : Char := (upperChar c).headD c

/-- Has a code point between `low` and `high` another case? -/
def hasCaseWithin (low high : Nat) : Bool :=
  lowerRuns.any (·.meets low high) || upperRuns.any (·.meets low high) ||
    upperExpansions.any fun expansion => Nat.ble low expansion.1 && Nat.ble expansion.1 high

def isCased (c : Char) : Bool := inRanges casedRanges c.toNat

def isCaseIgnorable (c : Char) : Bool := inRanges caseIgnorableRanges c.toNat

/-- Does a cased character come next, case-ignorable ones aside? -/
def casedNext (text : Text) : Bool :=
  match text.dropWhile isCaseIgnorable with
  | c :: _ => isCased c
  | [] => false

/-- The small form of text that follows other text; `casedBefore` says whether a cased character
came last, case-ignorable ones aside. -/
def lowerAfter (casedBefore : Bool) : Text → Text
  | [] => []
  | c :: rest =>
    let small :=
      if c = '\u03a3' then
        if casedBefore && !casedNext rest then ['\u03c2'] else ['\u03c3']
      else lowerChar c
    small ++ lowerAfter (if isCaseIgnorable c then casedBefore else isCased c) rest

/-- The text in lower case. -/
def lower (text : Text) : Text := lowerAfter false text

/-- The text in upper case. -/
def upper (text : Text) : Text := text.flatMap upperChar

end FixedExtract.Text
