import FixedExtract.Text.Bytes
/-!
# Encodings of JSON

The encoding of a JSON document shows in its first bytes, since a document starts with two characters of ASCII:
where bytes are zero tells how many a character takes and which of them comes first.
-/

namespace FixedExtract.Json

/-- The order of the bytes of a number. -/
inductive ByteOrder where
  | bigFirst
  | littleFirst
  deriving DecidableEq, Repr

inductive Encoding where
  | bytes
  | pairs (order : ByteOrder)
  | quads (order : ByteOrder)
  deriving DecidableEq, Repr

/-- The encoding of a document. -/
def encodingOf : List Nat → Encoding
  | [a, b] => if a = 0 then .pairs .bigFirst else if b = 0 then .pairs .littleFirst else .bytes
  | a :: b :: c :: d :: _ =>
    if a = 0 then (if b = 0 then .quads .bigFirst else .pairs .bigFirst)
    else if b = 0 then (if c = 0 ∧ d = 0 then .quads .littleFirst else .pairs .littleFirst)
    else .bytes
  | _ => .bytes

/-- The number that bytes stand for. -/
def ByteOrder.number (order : ByteOrder) (bytes : List Nat) : Nat :=
  match order with
  | .bigFirst => bytes.foldl (fun n b => n * 256 + b) 0
  | .littleFirst => bytes.foldr (fun b n => n * 256 + b) 0

/-- The character with a code; half of a pair that stands alone is shown by a replacement character. -/
def characterOf (code : Nat) : Char :=
  if 0xd800 ≤ code ∧ code < 0xe000 then '\ufffd' else Char.ofNat code

/-- The units of two bytes each, when there is no byte left over. -/
def pairUnits? (order : ByteOrder) : List Nat → Option (List Nat)
  | [] => some []
  | a :: b :: rest => (pairUnits? order rest).map (order.number [a, b] :: ·)
  | _ => none

/-- The text of units of two bytes. Two units may make one character. -/
def textOfPairs : List Nat → Text
  | [] => []
  | [unit] => [characterOf unit]
  | high :: low :: rest =>
    if 0xd800 ≤ high ∧ high < 0xdc00 ∧ 0xdc00 ≤ low ∧ low < 0xe000 then
      Char.ofNat (0x10000 + (high - 0xd800) * 0x400 + (low - 0xdc00)) :: textOfPairs rest
    else characterOf high :: textOfPairs (low :: rest)

/-- The text of units of four bytes, none of which may be too large for a character. -/
def textOfQuads? (order : ByteOrder) : List Nat → Option Text
  | [] => some []
  | a :: b :: c :: d :: rest =>
    let code := order.number [a, b, c, d]
    if code < 0x110000 then (textOfQuads? order rest).map (characterOf code :: ·) else none
  | _ => none

/-- The text of a document without the mark that may stand in front of it. -/
def withoutMark : Text → Text
  | '\ufeff' :: rest => rest
  | text => text

/-- The document that a text holds, when its bytes are taken in the encoding that they show. A mark in front of
it is dropped when characters are bytes. -/
def decoded? (text : Text) : Option Text :=
  let bytes := Text.bytes text
  match encodingOf bytes with
  | .bytes => some (withoutMark text)
  | .pairs order => (pairUnits? order bytes).map textOfPairs
  | .quads order => textOfQuads? order bytes

end FixedExtract.Json
