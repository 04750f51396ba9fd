import FixedExtract.Text.Class
/-!
# Reading positions

A position in a text that is being read, with the line and the column it is on. Lines end at a line feed,
a carriage return, both together, a next line, a line separator or a paragraph separator. The end of the
text reads as a character that no text holds.
-/

namespace FixedExtract.Yaml

/-- What is seen at the end of the text. -/
def endMark : Char := '\x00'

/-- Does the character end a line? -/
def isBreak (c : Char) : Bool :=
  c = '\n' || c = '\r' || c = '\u0085' || c = '\u2028' || c = '\u2029'

/-- The end of a line or of the text. -/
def isBreakOrEnd (c : Char) : Bool := isBreak c || c = endMark

/-- A space, or the end of a line or of the text. -/
def isSpaceOrEnd (c : Char) : Bool := isBreakOrEnd c || c = ' '

/-- A space or tab, or the end of a line or of the text. -/
def isBlankOrEnd (c : Char) : Bool := isSpaceOrEnd c || c = '\t'

structure Cursor where
  rest : Text
  index : Nat
  line : Nat
  column : Nat
  deriving DecidableEq, Repr

namespace Cursor

/-- The start of a text. -/
def start (text : Text) : Cursor := ⟨text, 0, 0, 0⟩

/-- The character `k` places ahead. -/
def peek (c : Cursor) (k : Nat) : Char := c.rest.getD k endMark

/-- The character at the position. -/
def here (c : Cursor) : Char := c.rest.headD endMark

/-- The next position. A byte order mark takes no column. -/
def next (c : Cursor) : Cursor :=
  match c.rest with
  | [] => c
  | ch :: rest =>
    if isBreak ch && !(ch = '\r' && rest.head? = some '\n') then ⟨rest, c.index + 1, c.line + 1, 0⟩
    else ⟨rest, c.index + 1, c.line, if ch = '\ufeff' then c.column else c.column + 1⟩

/-- The position `n` characters ahead. -/
def skip (c : Cursor) : Nat → Cursor
  | 0 => c
  | n + 1 => c.next.skip n

/-- The characters from the position on that fulfil `p`. -/
def run (c : Cursor) (p : Char → Bool) : Text := c.rest.takeWhile p

/-- The position after the characters that fulfil `p`. -/
def skipWhile (c : Cursor) (p : Char → Bool) : Cursor := c.skip (c.run p).length

/-- The position after the spaces. -/
def skipSpaces (c : Cursor) : Cursor := c.skipWhile (· = ' ')

/-- The position after the spaces in front of a column. -/
def skipSpacesTo (column : Nat) (c : Cursor) : Cursor :=
  c.skip (min (column - c.column) (c.run (· = ' ')).length)

/-- The position at the end of the line. -/
def skipLine (c : Cursor) : Cursor := c.skipWhile fun ch => !isBreak ch

/-- The position after a comment, when one starts here. -/
def skipComment (c : Cursor) : Cursor := if c.here = '#' then c.skipLine else c

/-- Reads the end of a line: what it counts as, and the position behind it. -/
def lineBreak? (c : Cursor) : Option (Char × Cursor) :=
  if !isBreak c.here then none
  else if c.here = '\r' ∧ c.peek 1 = '\n' then some ('\n', c.skip 2)
  else if c.here = '\u2028' ∨ c.here = '\u2029' then some (c.here, c.next)
  else some ('\n', c.next)

/-- Does a line that divides documents start here? -/
def atDocumentMark (c : Cursor) : Bool :=
  (c.rest.take 3 == ['-', '-', '-'] || c.rest.take 3 == ['.', '.', '.']) && isBlankOrEnd (c.peek 3)

end Cursor
end FixedExtract.Yaml
