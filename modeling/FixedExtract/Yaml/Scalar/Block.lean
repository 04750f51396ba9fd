import FixedExtract.Yaml.Fault
import FixedExtract.Yaml.Scalar.Plain
/-!
# Block scalars

A block scalar is a run of indented lines behind a header. A literal one keeps its line ends; in a folded
one the line end between two lines that start with text counts as a space. The header says how much the
block is indented, if that is not to be seen from its first line, and what becomes of its last line ends.
-/

namespace FixedExtract.Yaml

/-- What becomes of the line ends behind the last line: one is kept, none, or all. -/
inductive Chomping where
  | clip
  | strip
  | keep
  deriving DecidableEq, Repr

structure BlockHeader where
  chomping : Chomping
  indentation : Option Nat
  after : Cursor
  deriving Repr

def readChomping (c : Cursor) : Chomping × Cursor :=
  if c.here = '+' then (.keep, c.next) else if c.here = '-' then (.strip, c.next) else (.clip, c)

def readIndentation (c : Cursor) : Option Nat × Cursor :=
  if Text.isAsciiDigit c.here then (some (Text.asciiDigitValue c.here), c.next) else (none, c)

/-- Reads the header behind the mark of a block scalar. Its two parts may come in either order. -/
def readBlockHeader (c : Cursor) : Except Fault BlockHeader :=
  let (early, c) := readChomping c
  let (indentation, c) := readIndentation c
  let (chomping, c) := if early = .clip then readChomping c else (early, c)
  if indentation = some 0 ∨ !isSpaceOrEnd c.here then .error .malformed
  else
    let c := c.skipSpaces.skipComment
    if !isBreakOrEnd c.here then .error .malformed
    else
      match c.lineBreak? with
      | some (_, after) => .ok ⟨chomping, indentation, after⟩
      | none => .ok ⟨chomping, indentation, c⟩

/-- The empty lines in front of a block, the largest column that the indentation reaches, and the
position. -/
def leadingLines (column : Nat) : (fuel : Nat) → Cursor → Text × Nat × Cursor
  | 0, c => ([], column, c)
  | fuel + 1, c =>
    if c.here = ' ' then leadingLines (max column c.next.column) fuel c.next
    else
      match c.lineBreak? with
      | none => ([], column, c)
      | some (b, after) =>
        let (breaks, most, last) := leadingLines column fuel after
        (b :: breaks, most, last)

/-- The empty lines inside a block that is indented to a column. -/
def blockBreaks (indent : Nat) : (fuel : Nat) → Cursor → Text × Cursor
  | 0, c => ([], c)
  | fuel + 1, c =>
    let c := c.skipSpacesTo indent
    match c.lineBreak? with
    | none => ([], c)
    | some (b, after) =>
      let (breaks, last) := blockBreaks indent fuel after
      (b :: breaks, last)

/-- The text of a block up to the end of its last line, that line end, and the line ends behind it. -/
structure BlockText where
  text : Text
  lineEnd : Text
  breaks : Text
  after : Cursor
  deriving Repr

/-- Does a line that starts with this character keep the line end in front of it or behind it? -/
def startsBlank (c : Char) : Bool := c = ' ' || c = '\t'

/-- Reads the lines of a block. -/
def readBlockLines (fold : Bool) (indent : Nat) : (fuel : Nat) → Text → Cursor → BlockText
  | 0, breaks, c => ⟨[], [], breaks, c⟩
  | fuel + 1, breaks, c =>
    if c.column ≠ indent ∨ c.rest.isEmpty then ⟨[], [], breaks, c⟩
    else
      let line := c.run fun ch => !isBreak ch
      let atEnd := c.skip line.length
      let (lineEnd, c') : Text × Cursor := match atEnd.lineBreak? with
        | some (b, after) => ([b], after)
        | none => ([], atEnd)
      let (following, last) := blockBreaks indent c'.rest.length.succ c'
      if last.column = indent ∧ !last.rest.isEmpty then
        let join : Text :=
          if fold && lineEnd == ['\n'] && !startsBlank c.here && !startsBlank last.here then
            if following.isEmpty then [' '] else []
          else lineEnd
        let more := readBlockLines fold indent fuel following last
        { more with text := breaks ++ line ++ join ++ more.text }
      else ⟨breaks ++ line, lineEnd, following, last⟩

/-- Reads a block scalar inside a block that is indented to column `parent`, or to none. The position is
at the mark of the scalar. -/
def readBlock (fold : Bool) (parent : Int) (c : Cursor) : Except Fault (Text × Cursor) := do
  let header ← readBlockHeader c.next
  let least := max 1 (parent + 1).toNat
  let (breaks, indent, first) : Text × Nat × Cursor :=
    match header.indentation with
    | none =>
      let (breaks, most, first) := leadingLines 0 header.after.rest.length header.after
      (breaks, max least most, first)
    | some extra =>
      let indent := least + extra - 1
      let (breaks, first) := blockBreaks indent header.after.rest.length.succ header.after
      (breaks, indent, first)
  let block := readBlockLines fold indent first.rest.length breaks first
  let tail : Text := match header.chomping with
    | .clip => block.lineEnd
    | .strip => []
    | .keep => block.lineEnd ++ block.breaks
  return (block.text ++ tail, block.after)

end FixedExtract.Yaml
