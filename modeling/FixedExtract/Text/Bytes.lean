import FixedExtract.Text.Basic
import FixedExtract.Text.Class
/-!
# Bytes of text

A text as bytes of UTF-8 and back. Not all bytes make a text.
-/

namespace FixedExtract.Text

/-- The bytes of a text. -/
def bytes (text : Text) : List Nat := (String.ofList text).toUTF8.toList.map UInt8.toNat

/-- The text of bytes. -/
def ofBytes? (bytes : List Nat) : Option Text :=
  (String.fromUTF8? ⟨(bytes.map UInt8.ofNat).toArray⟩).map String.toList

/-! ## Base 64

Bytes written with 64 characters, four for every three bytes. Characters of no meaning are skipped, and a
complete padding ends the text.
-/

/-- The value of a character of the alphabet. -/
def base64Digit? (c : Char) : Option Nat :=
  if Nat.ble 65 c.toNat && Nat.ble c.toNat 90 then some (c.toNat - 65)
  else if Nat.ble 97 c.toNat && Nat.ble c.toNat 122 then some (c.toNat - 71)
  else if isAsciiDigit c then some (c.toNat + 4)
  else if c = '+' then some 62
  else if c = '/' then some 63
  else none

/-- Reads from a place inside a group of four: `filled` characters of it have been read, of which
`left` are the bits not used up, and `pads` padding characters came last. -/
def base64From (filled left pads : Nat) : Text → Option (List Nat)
  | [] => if filled = 0 then some [] else none
  | c :: rest =>
    if c = '=' then
      if filled ≥ 2 ∧ filled + pads + 1 ≥ 4 then some []
      else base64From filled left (if filled ≥ 2 then pads + 1 else pads) rest
    else
      match base64Digit? c with
      | none => base64From filled left pads rest
      | some digit =>
        match filled with
        | 0 => base64From 1 digit 0 rest
        | 1 => (base64From 2 (digit % 16) 0 rest).map ((left * 4 + digit / 16) :: ·)
        | 2 => (base64From 3 (digit % 4) 0 rest).map ((left * 16 + digit / 4) :: ·)
        | _ => (base64From 0 0 0 rest).map ((left * 64 + digit) :: ·)

/-- The bytes that a text stands for. -/
def base64? (text : Text) : Option (List Nat) := base64From 0 0 0 text

end FixedExtract.Text
