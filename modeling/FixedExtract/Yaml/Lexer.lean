import FixedExtract.Text.Bytes
import FixedExtract.Yaml.Scalar.Block
import FixedExtract.Yaml.Scalar.Quoted
import FixedExtract.Yaml.Token
/-!
# From text to tokens

Tokens are told apart by their first characters. A key is not known to be one before the colon behind it
is seen, so every place where a key may have started is kept in mind until then, for at most one line and
1024 characters, and the token for the key is put in front of it later. Blocks are opened and closed by
the column of their first token.
-/

namespace FixedExtract.Yaml

/-! ## Directives, names and tags -/

/-- A letter, digit, hyphen or underscore of ASCII. -/
def isNameChar (c : Char) : Bool :=
  Text.isAsciiDigit c || Text.isAsciiLetter c || c = '-' || c = '_'

/-- Reads a name of at least one character. -/
def readName (c : Cursor) : Except Fault (Text × Cursor) :=
  let name := c.run isNameChar
  if name.isEmpty then .error .malformed else .ok (name, c.skip name.length)

/-- What may follow the name of an anchor or an alias. -/
def endsName (c : Char) : Bool :=
  isBlankOrEnd c || c = '?' || c = ':' || c = ',' || c = ']' || c = '\x7d' || c = '%' || c = '@' ||
    c = '\x60'

/-- Reads the name of an anchor or an alias; the position is at its mark. -/
def readAnchor (c : Cursor) : Except Fault (Text × Cursor) := do
  let (name, after) ← readName c.next
  if endsName after.here then return (name, after) else throw .malformed

/-- Reads a tag handle: an exclamation mark, perhaps a name, and another one. -/
def readHandle (c : Cursor) : Except Fault (Text × Cursor) :=
  if c.here ≠ '!' then .error .malformed
  else if c.peek 1 = ' ' then .ok (['!'], c.next)
  else
    let name := c.next.run isNameChar
    let after := c.next.skip name.length
    if after.here = '!' then .ok ('!' :: name ++ ['!'], after.next) else .error .malformed

/-- A character that stands for itself in a tag. -/
def isTagChar (c : Char) : Bool :=
  Text.isAsciiDigit c || Text.isAsciiLetter c ||
    List.elem c ['-', ';', '/', '?', ':', '@', '&', '=', '+', '$', ',', '_', '.', '!', '~', '*',
      '\x27', '(', ')', '[', ']']

/-- The bytes of the escapes that follow one another here. -/
def readTagBytes : (fuel : Nat) → Cursor → Except Fault (List Nat × Cursor)
  | 0, c => .ok ([], c)
  | fuel + 1, c =>
    if c.here = '%' then
      match Text.hexDigit? (c.peek 1), Text.hexDigit? (c.peek 2) with
      | some high, some low => do
        let (bytes, last) ← readTagBytes fuel (c.skip 3)
        return ((high * 16 + low) :: bytes, last)
      | _, _ => .error .malformed
    else .ok ([], c)

/-- The characters of a tag. -/
def readTagChars : (fuel : Nat) → Cursor → Except Fault (Text × Cursor)
  | 0, c => .ok ([], c)
  | fuel + 1, c =>
    if c.here = '%' then do
      let (bytes, after) ← readTagBytes c.rest.length c
      let text ← (Text.ofBytes? bytes).elim (.error .malformed) .ok
      let (more, last) ← readTagChars fuel after
      return (text ++ more, last)
    else if isTagChar c.here then do
      let (more, last) ← readTagChars fuel c.next
      return (c.here :: more, last)
    else .ok ([], c)

/-- Reads what stands behind the handle of a tag; there has to be something. -/
def readTagText (c : Cursor) : Except Fault (Text × Cursor) :=
  if c.here = '%' || isTagChar c.here then readTagChars c.rest.length c else .error .malformed

/-- Reads a tag; the position is at its exclamation mark. -/
def readTag (c : Cursor) : Except Fault (Token × Cursor) := do
  let following := c.peek 1
  let (token, after) ←
    if following = '<' then do
      let (suffix, after) ← readTagText (c.skip 2)
      if after.here = '>' then pure (Token.tag none suffix, after.next) else throw Fault.malformed
    else if isBlankOrEnd following then pure (Token.tag none ['!'], c.next)
    else do
      -- A second exclamation mark before the next space shows that the tag has a handle of its own.
      let hasHandle := (c.next.run fun ch => !isSpaceOrEnd ch).elem '!'
      let (handle, after) ← if hasHandle then readHandle c else pure (['!'], c.next)
      let (suffix, after) ← readTagText after
      pure (Token.tag (some handle) suffix, after)
  if isSpaceOrEnd after.here then return (token, after) else throw .malformed

/-- Reads one of the numbers of a version. -/
def readVersionNumber (c : Cursor) : Except Fault (Nat × Cursor) :=
  let digits := c.run Text.isAsciiDigit
  if digits.isEmpty then .error .malformed
  else if digits.length > Text.maxDigits then .error (.integer (.tooLong digits.length))
  else .ok (Text.valueOfDigits 10 (digits.map Text.asciiDigitValue), c.skip digits.length)

/-- Reads the content of a directive with a name. -/
def readDirectiveContent (name : Text) (c : Cursor) : Except Fault (Directive × Cursor) :=
  if name = ("YAML" : Text) then do
    let (major, c) ← readVersionNumber c.skipSpaces
    if c.here ≠ '.' then throw .malformed
    let (minor, c) ← readVersionNumber c.next
    if isSpaceOrEnd c.here then return (.version major minor, c) else throw .malformed
  else if name = ("TAG" : Text) then do
    let (handle, c) ← readHandle c.skipSpaces
    if c.here ≠ ' ' then throw .malformed
    let (expansion, c) ← readTagText c.skipSpaces
    if isSpaceOrEnd c.here then return (.tagHandle handle expansion, c) else throw .malformed
  else .ok (.other, c.skipLine)

/-- Reads a directive; the position is at its percent sign. -/
def readDirective (c : Cursor) : Except Fault (Token × Cursor) := do
  let (name, c) ← readName c.next
  if !isSpaceOrEnd c.here then throw .malformed
  let (directive, c) ← readDirectiveContent name c
  let c := c.skipSpaces.skipComment
  if !isBreakOrEnd c.here then throw .malformed
  match c.lineBreak? with
  | some (_, after) => return (.directive directive, after)
  | none => return (.directive directive, c)

/-! ## The state of reading -/

/-- A place where a key may have started: its flow level, the number of tokens before it, and its
position. A required one has to turn out to be a key. -/
structure KeyStart where
  level : Nat
  number : Nat
  required : Bool
  index : Nat
  line : Nat
  column : Nat
  deriving DecidableEq, Repr

/-- The state between two tokens. Tokens are kept latest first. -/
structure Lexing where
  cursor : Cursor
  flowLevel : Nat
  indent : Int
  indents : List Int
  keyAllowed : Bool
  keyStarts : List KeyStart
  tokens : List Token
  count : Nat
  deriving Repr

namespace Lexing

def start (text : Text) : Lexing := ⟨.start text, 0, -1, [], true, [], [], 0⟩

def push (s : Lexing) (token : Token) : Lexing :=
  { s with tokens := token :: s.tokens, count := s.count + 1 }

/-- Puts a token behind the first `number` tokens. -/
def insertAt (s : Lexing) (number : Nat) (token : Token) : Lexing :=
  let later := s.count - number
  { s with tokens := s.tokens.take later ++ token :: s.tokens.drop later, count := s.count + 1 }

def moveTo (s : Lexing) (c : Cursor) : Lexing := { s with cursor := c }

/-- Is the position inside a flow collection? -/
def inFlow (s : Lexing) : Bool := s.flowLevel ≠ 0

/-- Is a place too far back to start a key? -/
def isStale (s : Lexing) (key : KeyStart) : Bool :=
  key.line ≠ s.cursor.line || key.index + 1024 < s.cursor.index

/-- Forgets the places that are too far back to start a key. -/
def dropStale (s : Lexing) : Except Fault Lexing :=
  if s.keyStarts.any fun key => s.isStale key && key.required then .error .malformed
  else .ok { s with keyStarts := s.keyStarts.filter fun key => !s.isStale key }

/-- Forgets the place of the present flow level. -/
def dropKeyStart (s : Lexing) : Except Fault Lexing :=
  if s.keyStarts.any fun key => key.level = s.flowLevel && key.required then .error .malformed
  else .ok { s with keyStarts := s.keyStarts.filter fun key => key.level ≠ s.flowLevel }

/-- Keeps the position in mind as the start of a key, when keys are allowed. -/
def saveKeyStart (s : Lexing) : Except Fault Lexing :=
  if s.keyAllowed then do
    let s ← s.dropKeyStart
    let required := !s.inFlow && s.indent == s.cursor.column
    let key : KeyStart :=
      ⟨s.flowLevel, s.count, required, s.cursor.index, s.cursor.line, s.cursor.column⟩
    return { s with keyStarts := key :: s.keyStarts }
  else return s

/-- Closes the blocks that are indented more than `column`. -/
def closeBlocks (column : Int) (s : Lexing) : Lexing :=
  if s.inFlow then s
  else
    let deeper := (s.indent :: s.indents).takeWhile (column < ·)
    match (s.indent :: s.indents).drop deeper.length with
    | [] => s
    | indent :: indents =>
      { s with
        indent := indent
        indents := indents
        tokens := List.replicate deeper.length .blockEnd ++ s.tokens
        count := s.count + deeper.length }

/-- Opens a block at a column that is indented more than the present block; its token goes behind the
first `number` tokens. -/
def openBlock (column number : Nat) (token : Token) (s : Lexing) : Lexing :=
  if s.indent < column then
    { s with indent := column, indents := s.indent :: s.indents }.insertAt number token
  else s

/-- Moves to the next token. A byte order mark at the very start is skipped. -/
def skipToToken : (fuel : Nat) → Lexing → Lexing
  | 0, s => s
  | fuel + 1, s =>
    let c := s.cursor.skipSpaces.skipComment
    match c.lineBreak? with
    | some (_, after) =>
      skipToToken fuel { s with cursor := after, keyAllowed := s.keyAllowed || !s.inFlow }
    | none => s.moveTo c

/-! ## Fetching tokens -/

/-- Takes one of the tokens that stand at the start of a line. -/
def takeAtLineStart (s : Lexing) : Except Fault Lexing := do
  let s ← (s.closeBlocks (-1)).dropKeyStart
  return { s with keyAllowed := false }

def takeDirective (s : Lexing) : Except Fault Lexing := do
  let s ← s.takeAtLineStart
  let (token, after) ← readDirective s.cursor
  return (s.push token).moveTo after

def takeDocumentMark (token : Token) (s : Lexing) : Except Fault Lexing := do
  let s ← s.takeAtLineStart
  return (s.push token).moveTo (s.cursor.skip 3)

def takeFlowStart (token : Token) (s : Lexing) : Except Fault Lexing := do
  let s ← s.saveKeyStart
  let s := { s with flowLevel := s.flowLevel + 1, keyAllowed := true }
  return (s.push token).moveTo s.cursor.next

def takeFlowEnd (token : Token) (s : Lexing) : Except Fault Lexing := do
  let s ← s.dropKeyStart
  let s := { s with flowLevel := s.flowLevel - 1, keyAllowed := false }
  return (s.push token).moveTo s.cursor.next

def takeFlowEntry (s : Lexing) : Except Fault Lexing := do
  let s ← { s with keyAllowed := true }.dropKeyStart
  return (s.push .flowEntry).moveTo s.cursor.next

/-- Takes a hyphen, which opens a sequence when it is the first of it. -/
def takeBlockEntry (s : Lexing) : Except Fault Lexing := do
  if !s.inFlow && !s.keyAllowed then throw .malformed
  let s := if s.inFlow then s else s.openBlock s.cursor.column s.count .blockSequenceStart
  let s ← { s with keyAllowed := true }.dropKeyStart
  return (s.push .blockEntry).moveTo s.cursor.next

/-- Takes a question mark, which opens a mapping when it is the first of it. -/
def takeKey (s : Lexing) : Except Fault Lexing := do
  if !s.inFlow && !s.keyAllowed then throw .malformed
  let s := if s.inFlow then s else s.openBlock s.cursor.column s.count .blockMappingStart
  let s ← { s with keyAllowed := !s.inFlow }.dropKeyStart
  return (s.push .key).moveTo s.cursor.next

/-- Takes a colon. What stands before it turns out to be a key when it may be one. -/
def takeValue (s : Lexing) : Except Fault Lexing := do
  match s.keyStarts.find? fun key => key.level = s.flowLevel with
  | some key =>
    let s := { s with keyStarts := s.keyStarts.filter fun k => k.level ≠ s.flowLevel }
    let s := s.insertAt key.number .key
    let s := if s.inFlow then s else s.openBlock key.column key.number .blockMappingStart
    let s := { s with keyAllowed := false }
    return (s.push .value).moveTo s.cursor.next
  | none =>
    if !s.inFlow && !s.keyAllowed then throw .malformed
    let s := if s.inFlow then s else s.openBlock s.cursor.column s.count .blockMappingStart
    let s ← { s with keyAllowed := !s.inFlow }.dropKeyStart
    return (s.push .value).moveTo s.cursor.next

/-- Takes a token that may be a key and is followed by one only behind a line end. -/
def takeNode (read : Cursor → Except Fault (Token × Cursor)) (s : Lexing) : Except Fault Lexing := do
  let s ← s.saveKeyStart
  let (token, after) ← read s.cursor
  return ({ s with keyAllowed := false }.push token).moveTo after

def takePlain (s : Lexing) : Except Fault Lexing := do
  let s ← s.saveKeyStart
  let scalar := readPlain s.inFlow (s.indent + 1).toNat s.cursor
  return ({ s with keyAllowed := scalar.brokeLine }.push (.scalar scalar.text true)).moveTo
    scalar.after

def takeBlock (fold : Bool) (s : Lexing) : Except Fault Lexing := do
  let s ← { s with keyAllowed := true }.dropKeyStart
  let (text, after) ← readBlock fold s.indent s.cursor
  return (s.push (.scalar text false)).moveTo after

def takeEnd (s : Lexing) : Except Fault Lexing := do
  let s ← (s.closeBlocks (-1)).dropKeyStart
  return { s with keyAllowed := false, keyStarts := [] }.push .streamEnd

/-- The characters that no plain scalar starts with unless a further rule allows it. -/
def isIndicator (c : Char) : Bool :=
  List.elem c ['-', '?', ':', ',', '[', ']', '\x7b', '\x7d', '#', '&', '*', '!', '|', '>', '\x27',
    '"', '%', '@', '\x60']

/-- May a plain scalar start here? -/
def startsPlain (s : Lexing) : Bool :=
  let ch := s.cursor.here
  !(isIndicator ch || isBlankOrEnd ch) ||
    (!isBlankOrEnd (s.cursor.peek 1) &&
      (ch = '-' || (!s.inFlow && (ch = '?' || ch = ':'))))

/-- Takes the token at the position. -/
def takeHere (s : Lexing) : Except Fault Lexing :=
  let c := s.cursor
  let ch := c.here
  let freeStanding := isBlankOrEnd (c.peek 1)
  if c.rest.isEmpty then s.takeEnd
  else if ch = '%' ∧ c.column = 0 then s.takeDirective
  else if c.column = 0 ∧ c.atDocumentMark then
    s.takeDocumentMark (if ch = '-' then .documentStart else .documentEnd)
  else if ch = '[' then s.takeFlowStart .flowSequenceStart
  else if ch = '\x7b' then s.takeFlowStart .flowMappingStart
  else if ch = ']' then s.takeFlowEnd .flowSequenceEnd
  else if ch = '\x7d' then s.takeFlowEnd .flowMappingEnd
  else if ch = ',' then s.takeFlowEntry
  else if ch = '-' ∧ freeStanding then s.takeBlockEntry
  else if ch = '?' ∧ (s.inFlow ∨ freeStanding) then s.takeKey
  else if ch = ':' ∧ (s.inFlow ∨ freeStanding) then s.takeValue
  else if ch = '*' then s.takeNode fun c => (readAnchor c).map fun (name, c) => (.alias name, c)
  else if ch = '&' then s.takeNode fun c => (readAnchor c).map fun (name, c) => (.anchor name, c)
  else if ch = '!' then s.takeNode readTag
  else if ch = '|' ∧ !s.inFlow then s.takeBlock false
  else if ch = '>' ∧ !s.inFlow then s.takeBlock true
  else if ch = '\x27' ∨ ch = '"' then
    s.takeNode fun c => (readQuoted c).map fun (text, c) => (.scalar text false, c)
  else if s.startsPlain then s.takePlain
  else .error .malformed

/-- Takes the next token. -/
def takeNext (s : Lexing) : Except Fault Lexing := do
  let s ← (s.skipToToken s.cursor.rest.length.succ).dropStale
  (s.closeBlocks s.cursor.column).takeHere

/-- The tokens in front of all places where a key may have started: what comes behind such a place is not
known before the text behind it has been looked at. -/
def settled (s : Lexing) : List Token :=
  let starts := (s.keyStarts.filter fun key => !s.isStale key).map KeyStart.number
  s.tokens.reverse.take (starts.foldl min s.count)

/-- Takes tokens to the end of the text or to a fault. -/
def run : (fuel : Nat) → Lexing → List Token × Option Fault
  | 0, s => (s.tokens.reverse, some .malformed)
  | fuel + 1, s =>
    match s.takeNext with
    | .error fault => (s.settled, some fault)
    | .ok s => if s.tokens.head? = some .streamEnd then (s.tokens.reverse, none) else run fuel s

end Lexing

/-- The tokens of a text, and the fault behind the last one when the text does not end there. -/
def tokens (text : Text) : List Token × Option Fault :=
  let text := if text.head? = some '\ufeff' then text.drop 1 else text
  (Lexing.start text).run text.length.succ

end FixedExtract.Yaml
