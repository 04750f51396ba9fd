import FixedExtract.Yaml.Fault
import FixedExtract.Yaml.Scalar.Plain
/-!
# Quoted scalars

Between single quotes every character stands for itself, and a quote is written twice. Between double
quotes a backslash starts an escape. Line ends are folded as in plain scalars; an escaped one counts as
nothing.
-/

namespace FixedExtract.Yaml

/-- The escapes of one character and what they stand for. -/
def escapes : List (Char × Char) :=
  [('0', '\x00'), ('a', '\x07'), ('b', '\x08'), ('t', '\t'), ('\t', '\t'), ('n', '\n'),
   ('v', '\x0b'), ('f', '\x0c'), ('r', '\r'), ('e', '\x1b'), (' ', ' '), ('"', '"'), ('\\', '\\'),
   ('/', '/'), ('N', '\u0085'), ('_', '\u00a0'), ('L', '\u2028'), ('P', '\u2029')]

/-- The letters that a code point may follow, with its number of digits. -/
def codeWidths : List (Char × Nat) := [('x', 2), ('u', 4), ('U', 8)]

/-- The character with a code point; a surrogate is shown as the replacement character. -/
def characterOf (code : Nat) : Except Fault Char :=
  if code ≥ 0x110000 then .error (.character code)
  else if 0xd800 ≤ code ∧ code ≤ 0xdfff then .ok '\ufffd'
  else .ok (Char.ofNat code)

/-- The code point written here in a number of hexadecimal digits. -/
def readCode (width : Nat) (c : Cursor) : Except Fault (Text × Cursor) :=
  match (c.rest.take width).mapM Text.hexDigit? with
  | none => .error .malformed
  | some digits =>
    if digits.length < width then .error .malformed
    else (characterOf (Text.valueOfDigits 16 digits)).map fun ch => ([ch], c.skip width)

/-- The line ends from the start of a line on, with white space around them. -/
def quotedBreaks : (fuel : Nat) → Cursor → Except Fault (Text × Cursor)
  | 0, c => .ok ([], c)
  | fuel + 1, c =>
    if c.atDocumentMark then .error .malformed
    else
      let c := c.skipWhile fun ch => ch = ' ' || ch = '\t'
      match c.lineBreak? with
      | none => .ok ([], c)
      | some (b, after) => (quotedBreaks fuel after).map fun (breaks, last) => (b :: breaks, last)

/-- Reads an escape; the position is behind the backslash. -/
def readEscape (c : Cursor) : Except Fault (Text × Cursor) :=
  match escapes.lookup c.here, codeWidths.lookup c.here, c.lineBreak? with
  | some ch, _, _ => .ok ([ch], c.next)
  | none, some width, _ => readCode width c.next
  | none, none, some (_, after) => quotedBreaks after.rest.length after
  | none, none, none => .error .malformed

/-- Does the character stand for itself in both kinds of quotes? -/
def isOrdinary (c : Char) : Bool :=
  !(c = '\x27' || c = '"' || c = '\\' || isBlankOrEnd c)

/-- Reads what stands before white space or the closing quote. -/
def quotedPiece (double : Bool) : (fuel : Nat) → Cursor → Except Fault (Text × Cursor)
  | 0, c => .ok ([], c)
  | fuel + 1, c =>
    let ordinary := c.run isOrdinary
    let c := c.skip ordinary.length
    if !double ∧ c.here = '\x27' ∧ c.peek 1 = '\x27' then do
      let (more, last) ← quotedPiece double fuel (c.skip 2)
      return (ordinary ++ '\x27' :: more, last)
    else if (double ∧ c.here = '\x27') ∨ (!double ∧ (c.here = '"' ∨ c.here = '\\')) then do
      let (more, last) ← quotedPiece double fuel c.next
      return (ordinary ++ c.here :: more, last)
    else if double ∧ c.here = '\\' then do
      let (escaped, after) ← readEscape c.next
      let (more, last) ← quotedPiece double fuel after
      return (ordinary ++ escaped ++ more, last)
    else .ok (ordinary, c)

/-- Reads the white space between two pieces. -/
def quotedGap (c : Cursor) : Except Fault (Text × Cursor) :=
  let blanks := c.run fun ch => ch = ' ' || ch = '\t'
  let c := c.skip blanks.length
  if c.rest.isEmpty then .error .malformed
  else
    match c.lineBreak? with
    | none => .ok (blanks, c)
    | some (b, after) =>
      (quotedBreaks after.rest.length after).map fun (breaks, last) => (folded b breaks, last)

/-- Reads a quoted scalar from behind a piece of it on. -/
def readQuotedAfter (quote : Char) : (fuel : Nat) → Cursor → Except Fault (Text × Cursor)
  | 0, _ => .error .malformed
  | fuel + 1, c =>
    if c.here = quote then .ok ([], c.next)
    else do
      let (gap, c) ← quotedGap c
      let (piece, c) ← quotedPiece (quote == '"') c.rest.length c
      let (more, last) ← readQuotedAfter quote fuel c
      return (gap ++ piece ++ more, last)

/-- Reads a quoted scalar; the position is at its opening quote. -/
def readQuoted (c : Cursor) : Except Fault (Text × Cursor) := do
  let quote := c.here
  let (piece, after) ← quotedPiece (quote == '"') c.rest.length c.next
  let (more, last) ← readQuotedAfter quote c.rest.length after
  return (piece ++ more, last)

end FixedExtract.Yaml
