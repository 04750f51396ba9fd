import FixedExtract.Regex.Pattern
import FixedExtract.Text.CharacterName.Lookup
import FixedExtract.Text.Identifier
import FixedExtract.Text.Integer
/-!
# Tokens of a pattern

A pattern is read character by character, except that a backslash and the character after it are one token.
Everything here reads from the front of a list of tokens and gives what is left, so that each reader can be
followed by any other.
-/

namespace FixedExtract.Regex

/-! ## Faults -/

/-- Why a pattern that is well formed cannot be used. -/
inductive Refusal where
  | tooManyRepeats
  | longNumber (digits : Nat)
  | incompatibleFlags
  | farBehind
  deriving DecidableEq, Repr

def Refusal.message : Refusal → Text
  | .tooManyRepeats => "the repetition number is too large"
  | .longNumber digits => (Text.IntegerFault.tooLong digits).message
  | .incompatibleFlags => "ASCII and UNICODE flags are incompatible"
  | .farBehind => "invalid SRE code"

inductive Fault where
  | malformed
  | refused (refusal : Refusal)
  deriving DecidableEq, Repr

/-! ## Tokens -/

/-- A backslash at the very end is broken off. -/
inductive Token where
  | plain (c : Char)
  | escaped (c : Char)
  | broken
  deriving DecidableEq, Repr

/-- The tokens of a pattern. -/
def tokensOf : Text → List Token
  | [] => []
  | '\\' :: c :: rest => .escaped c :: tokensOf rest
  | ['\\'] => [.broken]
  | c :: rest => .plain c :: tokensOf rest

/-- The characters of the plain tokens at the front that fulfil `p`, at most `most` of them. -/
def takeChars (p : Char → Bool) : (most : Nat) → List Token → Text × List Token
  | 0, ts => ([], ts)
  | most + 1, .plain c :: rest =>
    if p c then
      let (text, rest) := takeChars p most rest
      (c :: text, rest)
    else ([], .plain c :: rest)
  | _, ts => ([], ts)

/-- The name in front of a closing character. -/
def nameUntil (close : Char) : List Token → Except Fault (Text × List Token)
  | .plain c :: rest =>
    if c = close then .ok ([], rest)
    else do
      let (name, rest) ← nameUntil close rest
      .ok (c :: name, rest)
  | _ => .error .malformed

/-- The tokens behind the closing parenthesis. -/
def closeGroup : List Token → Except Fault (List Token)
  | .plain ')' :: rest => .ok rest
  | _ => .error .malformed

/-- The tokens behind a comment in parentheses. -/
def skipRemark : List Token → Except Fault (List Token)
  | .plain ')' :: rest => .ok rest
  | .plain _ :: rest => skipRemark rest
  | .escaped _ :: rest => skipRemark rest
  | _ => .error .malformed

/-- The tokens behind a comment that ends with the line. -/
def skipLine : List Token → List Token
  | .plain c :: rest => if c = '\n' then rest else skipLine rest
  | .escaped _ :: rest => skipLine rest
  | ts => ts

/-! ## Escapes -/

/-- The control characters that have a letter, and the backslash. -/
def controlEscape? (c : Char) : Option Nat :=
  if c = 'a' then some 7
  else if c = 'b' then some 8
  else if c = 't' then some 9
  else if c = 'n' then some 10
  else if c = 'v' then some 11
  else if c = 'f' then some 12
  else if c = 'r' then some 13
  else if c = '\\' then some 92
  else none

/-- The category of a letter, and whether its complement is meant. -/
def categoryEscape? (c : Char) : Option SetItem :=
  if c = 'd' then some (.category .digit false)
  else if c = 'D' then some (.category .digit true)
  else if c = 's' then some (.category .space false)
  else if c = 'S' then some (.category .space true)
  else if c = 'w' then some (.category .word false)
  else if c = 'W' then some (.category .word true)
  else none

def anchorEscape? (c : Char) : Option Anchor :=
  if c = 'A' then some .textStart
  else if c = 'Z' then some .textEnd
  else if c = 'b' then some .boundary
  else if c = 'B' then some .noBoundary
  else none

/-- How many hexadecimal digits follow a letter. -/
def hexWidth? (c : Char) : Option Nat :=
  if c = 'x' then some 2 else if c = 'u' then some 4 else if c = 'U' then some 8 else none

def isHexDigit (c : Char) : Bool := (Text.hexDigit? c).isSome

def isOctalDigit (c : Char) : Bool := Nat.ble 48 c.toNat && Nat.ble c.toNat 55

/-- The value of an octal numeral. -/
def octalValue (digits : Text) : Nat := Text.valueOfDigits 8 (digits.map Text.asciiDigitValue)

/-- A code point given in octal; it has at most eight bits. -/
def octalCode (digits : Text) (rest : List Token) : Except Fault (Nat × List Token) :=
  if octalValue digits > 255 then .error .malformed else .ok (octalValue digits, rest)

/-- A code point given by the name of its character between braces. -/
def namedCode : List Token → Except Fault (Nat × List Token)
  | .plain '\x7b' :: rest => do
    let (name, rest) ← nameUntil '\x7d' rest
    match Text.characterNamed? name with
    | some code => .ok (code, rest)
    | none => .error .malformed
  | _ => .error .malformed

/-- A code point given by hexadecimal digits or by name, or any other character that stands for itself. -/
def codeEscape (c : Char) (ts : List Token) : Except Fault (Nat × List Token) :=
  match hexWidth? c with
  | some width =>
    let (digits, rest) := takeChars isHexDigit width ts
    let code := Text.valueOfDigits 16 (digits.filterMap Text.hexDigit?)
    if digits.length = width ∧ code < 0x110000 then .ok (code, rest) else .error .malformed
  | none =>
    if c = 'N' then namedCode ts
    else if Text.isAsciiLetter c || Text.isAsciiDigit c then .error .malformed
    else .ok (c.toNat, ts)

/-- What an escape stands for in a set. -/
def setEscape (c : Char) (ts : List Token) : Except Fault (SetItem × List Token) :=
  match categoryEscape? c, controlEscape? c with
  | some item, _ => .ok (item, ts)
  | none, some code => .ok (.literal code, ts)
  | none, none =>
    let read :=
      if isOctalDigit c then
        let (digits, rest) := takeChars isOctalDigit 2 ts
        octalCode (c :: digits) rest
      else codeEscape c ts
    read.map fun (code, rest) => (.literal code, rest)

/-- What an escape outside of sets stands for. -/
inductive Escape where
  | item (item : Item)
  | reference (index : Nat)

/-- Reads an escape outside of sets. Up to two digits refer to a group, but three octal digits are a code
point, and so is everything after a zero. -/
def readEscape (c : Char) (ts : List Token) : Except Fault (Escape × List Token) :=
  match anchorEscape? c, categoryEscape? c, controlEscape? c with
  | some anchor, _, _ => .ok (.item (.anchor anchor), ts)
  | none, some category, _ => .ok (.item (.set false [category]), ts)
  | none, none, some code => .ok (.item (.literal code), ts)
  | none, none, none =>
    if c = '0' then
      let (digits, rest) := takeChars isOctalDigit 2 ts
      .ok (.item (.literal (octalValue digits)), rest)
    else if Text.isAsciiDigit c then
      let (octal, rest) := takeChars isOctalDigit 2 ts
      if isOctalDigit c && octal.length = 2 then
        (octalCode (c :: octal) rest).map fun (code, rest) => (.item (.literal code), rest)
      else
        let (digits, rest) := takeChars Text.isAsciiDigit 1 ts
        let index := Text.valueOfDigits 10 ((c :: digits).map Text.asciiDigitValue)
        .ok (.reference index, rest)
    else (codeEscape c ts).map fun (code, rest) => (.item (.literal code), rest)

/-! ## Sets -/

/-- One character or escape of a set. -/
def setItem : List Token → Except Fault (SetItem × List Token)
  | .plain c :: rest => .ok (.literal c.toNat, rest)
  | .escaped c :: rest => setEscape c rest
  | _ => .error .malformed

/-- Two ends of a range. -/
def rangeOf : SetItem → SetItem → Except Fault SetItem
  | .literal low, .literal high => if low ≤ high then .ok (.range low high) else .error .malformed
  | _, _ => .error .malformed

/-- Reads the items of a set up to its closing bracket, which stands for itself where nothing is in front of
it. A hyphen in front of the bracket stands for itself too. -/
def setItems : (fuel : Nat) → (found : List SetItem) → List Token →
    Except Fault (List SetItem × List Token)
  | 0, _, _ => .error .malformed
  | fuel + 1, found, ts =>
    match ts with
    | [] => .error .malformed
    | t :: rest =>
      if t = .plain ']' && !found.isEmpty then .ok (found.reverse, rest)
      else do
        let (item, rest) ← setItem (t :: rest)
        match rest with
        | .plain '-' :: .plain ']' :: rest =>
          .ok ((.literal 45 :: item :: found).reverse, rest)
        | .plain '-' :: rest => do
          let (high, rest) ← setItem rest
          let range ← rangeOf item high
          setItems fuel (range :: found) rest
        | rest => setItems fuel (item :: found) rest

/-- The item for a set: one character that is not negated is a literal. -/
def setOf (negated : Bool) (items : List SetItem) : Item :=
  match negated, distinctItems items with
  | false, [.literal code] => .literal code
  | negated, items => .set negated items

/-- Reads a set whose opening bracket is read. -/
def readSet (ts : List Token) : Except Fault (Item × List Token) :=
  let (negated, ts) := match ts with
    | .plain '^' :: rest => (true, rest)
    | ts => (false, ts)
  (setItems ts.length [] ts).map fun (items, rest) => (setOf negated items, rest)

/-! ## Repetition -/

/-- A number of repetitions, when one is given. -/
def readCount (digits : Text) : Except Fault (Option Nat) :=
  let count := Text.valueOfDigits 10 (digits.map Text.asciiDigitValue)
  if digits.isEmpty then .ok none
  else if digits.length > Text.maxDigits then .error (.refused (.longNumber digits.length))
  else if count ≥ Width.repeatLimit then .error (.refused .tooManyRepeats)
  else .ok (some count)

/-- Reads the bounds behind an opening brace; none when the brace stands for itself. -/
def readBounds (ts : List Token) : Except Fault (Option ((Nat × Option Nat) × List Token)) :=
  let (low, behindLow) := takeChars Text.isAsciiDigit ts.length ts
  let (high, behindHigh) := match behindLow with
    | .plain ',' :: rest => takeChars Text.isAsciiDigit rest.length rest
    | rest => (low, rest)
  match ts, behindHigh with
  | .plain '\x7d' :: _, _ => .ok none
  | _, .plain '\x7d' :: .broken :: _ => .error .malformed
  | _, .plain '\x7d' :: rest => do
    let least ← readCount low
    let most ← readCount high
    if most.any fun n => n < least.getD 0 then .error .malformed
    else .ok (some ((least.getD 0, most), rest))
  | _, _ => .ok none

/-- Reads the bounds that a character sets; none when it is no mark of repetition. -/
def readRepetition (c : Char) (ts : List Token) :
    Except Fault (Option ((Nat × Option Nat) × List Token)) :=
  if c = '*' then .ok (some ((0, none), ts))
  else if c = '+' then .ok (some ((1, none), ts))
  else if c = '?' then .ok (some ((0, some 1), ts))
  else if c = '\x7b' then readBounds ts
  else .ok none

/-- Reads how the repetition is tried. -/
def readMode : List Token → Mode × List Token
  | .plain '?' :: rest => (.lazy, rest)
  | .plain '+' :: rest => (.possessive, rest)
  | ts => (.greedy, ts)

/-! ## Openings -/

/-- What an opening parenthesis opens. -/
inductive Opening where
  | capture (name : Option Text)
  | plain (on off : Flags)
  | atomic
  | look (ahead negated : Bool)
  | condition (name : Text)
  | reference (name : Text)
  | flags (on : Flags)
  | remark
  deriving DecidableEq, Repr

/-- Reads flags to turn off, up to the colon. The alphabet cannot be turned off. -/
def flagsOff (on : Flags) : (off : Flags) → List Token → Except Fault (Opening × List Token)
  | off, .plain c :: rest =>
    match Flags.ofLetter? c with
    | some flag =>
      if flag.hasAlphabet then .error .malformed else flagsOff on (off.union flag) rest
    | none =>
      if c = ':' && off ≠ .none && !on.template && !off.template && on.common off = .none then
        .ok (.plain on off, rest)
      else .error .malformed
  | _, _ => .error .malformed

/-- Reads flags to turn on. At most one alphabet may be given. -/
def flagsOn : (on : Flags) → List Token → Except Fault (Opening × List Token)
  | on, .plain c :: rest =>
    match Flags.ofLetter? c with
    | some flag =>
      let on := on.union flag
      if on.ascii && on.unicode then .error .malformed else flagsOn on rest
    | none =>
      if c = '-' then if on.template then .error .malformed else flagsOff on .none rest
      else if on = .none then .error .malformed
      else if c = ')' then .ok (.flags on, rest)
      else if c = ':' && !on.template then .ok (.plain on .none, rest)
      else .error .malformed
  | _, _ => .error .malformed

/-- Reads what stands behind an opening parenthesis up to the contents of the group. -/
def readOpening : List Token → Except Fault (Opening × List Token)
  | .plain '?' :: .plain 'P' :: .plain '<' :: rest => do
    let (name, rest) ← nameUntil '>' rest
    if Text.isIdentifier name then .ok (.capture (some name), rest) else .error .malformed
  | .plain '?' :: .plain 'P' :: .plain '=' :: rest => do
    let (name, rest) ← nameUntil ')' rest
    .ok (.reference name, rest)
  | .plain '?' :: .plain '<' :: .plain '=' :: rest => .ok (.look false false, rest)
  | .plain '?' :: .plain '<' :: .plain '!' :: rest => .ok (.look false true, rest)
  | .plain '?' :: .plain '=' :: rest => .ok (.look true false, rest)
  | .plain '?' :: .plain '!' :: rest => .ok (.look true true, rest)
  | .plain '?' :: .plain ':' :: rest => .ok (.plain .none .none, rest)
  | .plain '?' :: .plain '>' :: rest => .ok (.atomic, rest)
  | .plain '?' :: .plain '#' :: rest => do
    let rest ← skipRemark rest
    .ok (.remark, rest)
  | .plain '?' :: .plain '(' :: rest => do
    let (name, rest) ← nameUntil ')' rest
    .ok (.condition name, rest)
  | .plain '?' :: rest => flagsOn .none rest
  | rest => .ok (.capture none, rest)

end FixedExtract.Regex
