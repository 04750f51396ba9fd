import FixedExtract.Value.Display
/-!
# Writing JSON

A value on one line. What JSON has no form for is written as its text. Strings escape the quote, the
backslash and control characters; everything else stands for itself.
-/

namespace FixedExtract.Json

def escapedChar (c : Char) : Text :=
  if c = '"' ∨ c = '\\' then ['\\', c]
  else if c = '\n' then ['\\', 'n']
  else if c = '\r' then ['\\', 'r']
  else if c = '\t' then ['\\', 't']
  else if c.toNat < 32 then '\\' :: 'u' :: Text.hex 4 c.toNat
  else [c]

def writeText (text : Text) : Text := '"' :: text.flatMap escapedChar ++ ['"']

/-- The key of an entry as a JSON string. -/
def writeKey : Value → Text
  | .null => writeText "null"
  | .bool b => writeText (if b then "true" else "false")
  | key => writeText key.display

def writeFloat : Double → Text
  | .infinite s => if s then "-Infinity" else "Infinity"
  | .nan => "NaN"
  | x => x.text

mutual

def write : Value → Text
  | .null => "null"
  | .bool b => if b then "true" else "false"
  | .int n => Text.ofInt n
  | .float x => writeFloat x
  | .list items => '[' :: writeItems items ++ [']']
  | .tuple items => '[' :: writeItems items ++ [']']
  | .map entries => '\x7b' :: writeEntries entries ++ ['\x7d']
  | .text t => writeText t
  | .date d => writeText (Value.display (.date d))
  | .moment m => writeText (Value.display (.moment m))
  | .bytes bs => writeText (Value.display (.bytes bs))
  | .set items => writeText (Value.display (.set items))
  | .ring label v => writeText (Value.display (.ring label v))
  | .again _ => "null"

def writeItems : List Value → Text
  | [] => []
  | [item] => write item
  | item :: rest => write item ++ ',' :: writeItems rest

def writeEntries : List (Value × Value) → Text
  | [] => []
  | [(k, v)] => writeKey k ++ ':' :: write v
  | (k, v) :: rest => writeKey k ++ ':' :: write v ++ ',' :: writeEntries rest

end

/-! ## What the grammar has a form for -/

mutual

/-- Are all numbers in the value finite? The grammar has no form for others. -/
def isStrict : Value → Bool
  | .float x => x.isFinite
  | .list items => areStrict items
  | .tuple items => areStrict items
  | .set items => areStrict items
  | .map entries => entriesAreStrict entries
  | .ring _ v => isStrict v
  | _ => true

def areStrict : List Value → Bool
  | [] => true
  | item :: rest => isStrict item && areStrict rest

def entriesAreStrict : List (Value × Value) → Bool
  | [] => true
  | (key, v) :: rest => isStrict key && isStrict v && entriesAreStrict rest

end

end FixedExtract.Json
