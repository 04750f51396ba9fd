import FixedExtract.Yaml.Cursor
/-!
# Plain scalars

A plain scalar stands without quotes. It ends at a colon or a comment that stands free, in a flow
collection also at the marks of the collection. It may go on in the next line when that is indented far
enough; the line end between two words counts as a space, and empty lines count as line ends.
-/

namespace FixedExtract.Yaml

/-- The marks that divide flow collections. -/
def isFlowMark (c : Char) : Bool := c = ',' || c = '[' || c = ']' || c = '\x7b' || c = '\x7d'

/-- The length of the piece of a plain scalar that stands here, without white space. -/
def plainLength (flow : Bool) : Text → Nat
  | [] => 0
  | c :: rest =>
    let following := rest.headD endMark
    if isBlankOrEnd c then 0
    else if c = ':' && (isBlankOrEnd following || (flow && isFlowMark following)) then 0
    else if flow && (isFlowMark c || c = '?') then 0
    else plainLength flow rest + 1

/-- White space inside a plain scalar: what it counts as, whether a line ended, and the position behind
it. In front of a line that divides documents it counts as nothing. -/
structure Gap where
  text : Text
  brokeLine : Bool
  after : Cursor
  deriving Repr

/-- The empty lines from here on; true when a line that divides documents follows. -/
def emptyLines : (fuel : Nat) → Cursor → Text × Bool × Cursor
  | 0, c => ([], false, c)
  | fuel + 1, c =>
    if c.here = ' ' then emptyLines fuel c.next
    else
      match c.lineBreak? with
      | none => ([], false, c)
      | some (b, after) =>
        if after.atDocumentMark then ([b], true, after)
        else
          let (breaks, atMark, last) := emptyLines fuel after
          (b :: breaks, atMark, last)

/-- What a line end and the empty lines behind it count as. -/
def folded (lineBreak : Char) (breaks : Text) : Text :=
  (if lineBreak ≠ '\n' then [lineBreak] else if breaks.isEmpty then [' '] else []) ++ breaks

/-- The white space after a piece of a plain scalar. -/
def plainGap (c : Cursor) : Gap :=
  let spaces := c.run (· = ' ')
  match c.skipSpaces.lineBreak? with
  | none => ⟨spaces, false, c.skipSpaces⟩
  | some (b, after) =>
    if after.atDocumentMark then ⟨[], true, after⟩
    else
      match emptyLines after.rest.length after with
      | (_, true, last) => ⟨[], true, last⟩
      | (breaks, false, last) => ⟨folded b breaks, true, last⟩

/-- A scalar that was read, whether a line ended in the white space behind it, and the position. -/
structure PlainScalar where
  text : Text
  brokeLine : Bool
  after : Cursor
  deriving Repr

/-- Reads a plain scalar from `gap` on. -/
def readPlainAfter (flow : Bool) (indent : Nat) : (fuel : Nat) → Gap → PlainScalar
  | 0, gap => ⟨[], gap.brokeLine, gap.after⟩
  | fuel + 1, gap =>
    let c := gap.after
    let length := if c.here = '#' then 0 else plainLength flow c.rest
    if length = 0 then ⟨[], gap.brokeLine, c⟩
    else
      let piece := gap.text ++ c.rest.take length
      let following := plainGap (c.skip length)
      if following.text.isEmpty || following.after.here = '#' ||
          (!flow && following.after.column < indent) then
        ⟨piece, following.brokeLine, following.after⟩
      else
        let more := readPlainAfter flow indent fuel following
        { more with text := piece ++ more.text }

/-- Reads a plain scalar. Lines it goes on in have to be indented to `indent`, unless it stands in a flow
collection. -/
def readPlain (flow : Bool) (indent : Nat) (c : Cursor) : PlainScalar :=
  readPlainAfter flow indent c.rest.length ⟨[], false, c⟩

end FixedExtract.Yaml
