import FixedExtract.Text.Class
/-!
# Quoted text

How messages show a piece of text: between quotes, with everything that could not be read on a screen
written as an escape. Single quotes are used unless the text holds a single quote and no double one.
-/

namespace FixedExtract.Text

/-- The quote that a text is shown in. -/
def quoteFor (text : Text) : Char :=
  if List.elem '\x27' text && !List.elem '"' text then '"' else '\x27'

/-- A code point as an escape with two, four or eight hexadecimal digits. -/
def escapePoint (n : Nat) : Text :=
  if n < 0x100 then '\\' :: 'x' :: hex 2 n
  else if n < 0x10000 then '\\' :: 'u' :: hex 4 n
  else '\\' :: 'U' :: hex 8 n

/-- One character of quoted text. -/
def quotedChar (quote c : Char) : Text :=
  if c = quote ∨ c = '\\' then ['\\', c]
  else if c = '\n' then ['\\', 'n']
  else if c = '\r' then ['\\', 'r']
  else if c = '\t' then ['\\', 't']
  else if isPrintable c then [c]
  else escapePoint c.toNat

/-- The text between quotes, escaped where needed. -/
def quoted (text : Text) : Text :=
  let quote := quoteFor text
  quote :: text.flatMap (quotedChar quote) ++ [quote]

end FixedExtract.Text
