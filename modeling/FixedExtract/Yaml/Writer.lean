import FixedExtract.Yaml.Cursor
import FixedExtract.Yaml.Document
import FixedExtract.Yaml.Tag
/-!
# Writing YAML

Documents are written in block form, two spaces deeper for every level, and lists that stand under a key
as deep as the key. A text is written plain if it reads back as that text; otherwise between single
quotes, or between double quotes when it holds what only escapes can show. Lines have no largest width.
-/

namespace FixedExtract.Yaml

/-! ## The ways to write a text -/

inductive Style where
  | plain
  | single
  | double
  deriving DecidableEq, Repr

/-- A line end of the written form. -/
def isWrittenBreak (c : Char) : Bool :=
  c = '\n' || c = '\u0085' || c = '\u2028' || c = '\u2029'

/-- Can the character be written as it is? -/
def isShown (c : Char) : Bool :=
  let n := c.toNat
  c = '\n' || (32 ≤ n && n ≤ 126) || c = '\u0085' ||
    (c ≠ '\ufeff' && ((160 ≤ n && n ≤ 0xd7ff) || (0xe000 ≤ n && n ≤ 0xfffd) ||
      (0x10000 ≤ n && n < 0x10ffff)))

/-- Does the text hold a space in front of a line end? -/
def hasSpaceBreak : Text → Bool
  | c :: d :: rest => (c = ' ' && isWrittenBreak d) || hasSpaceBreak (d :: rest)
  | _ => false

/-- Does the text hold a space behind a line end? -/
def hasBreakSpace : Text → Bool
  | c :: d :: rest => (isWrittenBreak c && d = ' ') || hasBreakSpace (d :: rest)
  | _ => false

/-- Does a colon stand in front of white space or the end, or a number sign behind white space? -/
def hasFreeMark : Text → Bool
  | [] => false
  | ':' :: [] => true
  | c :: d :: rest =>
    (c = ':' && isBlankOrEnd d) || (isBlankOrEnd c && d = '#') || hasFreeMark (d :: rest)
  | _ => false

/-- The marks that nothing plain can start with. -/
def isStartMark (c : Char) : Bool :=
  List.elem c ['#', ',', '[', ']', '\x7b', '\x7d', '&', '*', '!', '|', '>', '\x27', '"', '%', '@',
    '\x60']

/-- Does the text start like something that is no plain scalar? -/
def startsMarked (text : Text) : Bool :=
  match text with
  | [] => false
  | c :: rest =>
    isStartMark c ||
      ((c = '?' || c = ':' || c = '-') && (rest.isEmpty || isBlankOrEnd (rest.headD endMark))) ||
      ("---".toList.isPrefixOf text || "...".toList.isPrefixOf text)

/-- Is there a space or a line end at either end of the text? -/
def isPadded (text : Text) : Bool :=
  let loose := fun c : Char => c = ' ' || isWrittenBreak c
  (text.head?.map loose).getD false || (text.getLast?.map loose).getD false

/-- The way a text is written. -/
def styleOf (text : Text) : Style :=
  if !text.all isShown || hasSpaceBreak text then .double
  else if plainTag text = .text && !text.any isWrittenBreak && !isPadded text &&
      !startsMarked text && !hasFreeMark text then .plain
  else if hasBreakSpace text then .double
  else .single

/-! ## Quoting -/

/-- The letters that stand for characters behind a backslash. -/
def escapeLetters : List (Char × Char) :=
  [('\x00', '0'), ('\x07', 'a'), ('\x08', 'b'), ('\t', 't'), ('\n', 'n'), ('\x0b', 'v'),
   ('\x0c', 'f'), ('\r', 'r'), ('\x1b', 'e'), ('"', '"'), ('\\', '\\'), ('\u0085', 'N'),
   ('\u00a0', '_'), ('\u2028', 'L'), ('\u2029', 'P')]

/-- A number in upper-case hexadecimal digits. -/
def upperHex (width n : Nat) : Text :=
  (Text.hex width n).map fun c =>
    if Nat.ble 97 c.toNat && Nat.ble c.toNat 102 then Char.ofNat (c.toNat - 32) else c

/-- Does the character stand for itself between double quotes? -/
def isUnescaped (c : Char) : Bool :=
  let n := c.toNat
  c ≠ '"' && c ≠ '\\' && c ≠ '\u2028' && c ≠ '\u2029' && c ≠ '\ufeff' &&
    ((32 ≤ n && n ≤ 126) || (160 ≤ n && n ≤ 0xd7ff) || (0xe000 ≤ n && n ≤ 0xfffd))

/-- A character between double quotes. -/
def escaped (c : Char) : Text :=
  if isUnescaped c then [c]
  else
    match escapeLetters.lookup c with
    | some letter => ['\\', letter]
    | none =>
      if c.toNat ≤ 0xff then '\\' :: 'x' :: upperHex 2 c.toNat
      else if c.toNat ≤ 0xffff then '\\' :: 'u' :: upperHex 4 c.toNat
      else '\\' :: 'U' :: upperHex 8 c.toNat

def writeDouble (text : Text) : Text := '"' :: text.flatMap escaped ++ ['"']

def spaces (n : Nat) : Text := List.replicate n ' '

/-- Text between single quotes from inside a run of line ends on. Behind the run the line is indented. -/
def writeSingleFrom (indent : Nat) (inBreaks : Bool) : Text → Text
  | [] => if inBreaks then spaces indent else []
  | c :: rest =>
    let indentation := if inBreaks && !isWrittenBreak c then spaces indent else []
    -- A run that starts with a line feed takes one more, since a single one would read as a space.
    let extra : Text := if !inBreaks && c = '\n' then ['\n'] else []
    let written : Text := if c = '\x27' then ['\x27', '\x27'] else [c]
    indentation ++ extra ++ written ++ writeSingleFrom indent (isWrittenBreak c) rest

/-- Text between single quotes; the lines it goes on in are indented. -/
def writeSingle (indent : Nat) (text : Text) : Text :=
  '\x27' :: writeSingleFrom indent false text ++ ['\x27']

/-- A text; the lines it goes on in are indented. -/
def writeText (indent : Nat) (text : Text) : Text :=
  match styleOf text with
  | .plain => text
  | .single => writeSingle indent text
  | .double => writeDouble text

/-! ## Documents -/

/-- The longest text that is written as a key in front of a colon. -/
def longestKey : Nat := 122

/-- Is the text written as a key in front of a colon? Longer keys, and those of several lines, have a line
of their own behind a question mark. -/
def isSimpleKey (key : Text) : Bool :=
  !key.isEmpty && key.length ≤ longestKey && !key.any isWrittenBreak

/-- What a collection follows: nothing, a key and its colon, or a mark and a space on its own line. -/
inductive Before where
  | nothing
  | key
  | mark
  deriving DecidableEq, Repr

/-- The start of a line at a depth; behind a mark the line has started already. -/
def lineStart (indent : Nat) : Bool → Text
  | true => '\n' :: spaces indent
  | false => []

mutual

/-- A document that follows something, in a block at depth `indent`. -/
def writeAfter (before : Before) (indent : Nat) : Document → Text
  | .text t => (if before = .key then [' '] else []) ++ writeText (indent + 2) t
  | .int n => (if before = .key then [' '] else []) ++ Text.ofInt n
  | .list [] => (if before = .key then [' '] else []) ++ "[]"
  | .map [] => (if before = .key then [' '] else []) ++ "\x7b\x7d"
  | .list (item :: rest) =>
    let depth := if before = .mark then indent + 2 else indent
    writeItems depth (before = .key) (item :: rest)
  | .map (entry :: rest) =>
    let depth := if before = .nothing then indent else indent + 2
    writeEntries depth (before = .key) (entry :: rest)

/-- The items of a list, the first of them on a new line if `fresh`. -/
def writeItems (indent : Nat) (fresh : Bool) : List Document → Text
  | [] => []
  | item :: rest =>
    lineStart indent fresh ++ '-' :: ' ' :: writeAfter .mark indent item ++ writeItems indent true rest

/-- The entries of a map, the first of them on a new line if `fresh`. -/
def writeEntries (indent : Nat) (fresh : Bool) : List (Text × Document) → Text
  | [] => []
  | (key, item) :: rest =>
    let line :=
      if isSimpleKey key then writeText (indent + 2) key ++ ':' :: writeAfter .key indent item
      else '?' :: ' ' :: writeText (indent + 2) key ++ '\n' :: spaces indent ++
        ':' :: ' ' :: writeAfter .mark indent item
    lineStart indent fresh ++ line ++ writeEntries indent true rest

end

/-- A document as a text of its own. -/
def write (document : Document) : Text := writeAfter .nothing 0 document ++ ['\n']

end FixedExtract.Yaml
