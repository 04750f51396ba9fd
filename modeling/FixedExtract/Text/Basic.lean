/-!
# Text

Text is a sequence of code points. Lengths, positions and slices all count code points, so text is
kept as the list itself and every cut is a list operation. String literals stand for their code
points wherever text is expected.
-/

namespace FixedExtract

/-- A sequence of code points. -/
abbrev Text := List Char

instance codePoints : Coe String (List Char) := ⟨String.toList⟩

namespace Text

/-! ## Numerals -/

/-- The decimal numeral of a natural number. -/
def ofNat (n : Nat) : Text := Nat.toDigits 10 n

/-- The decimal numeral of an integer, with a minus sign when it is negative. -/
def ofInt : Int → Text
  | .ofNat n => ofNat n
  | .negSucc n => '-' :: ofNat (n + 1)

/-- The lower-case hexadecimal numeral of `n`, filled with zeros to `width` digits. -/
def hex (width n : Nat) : Text :=
  let digits := Nat.toDigits 16 n
  List.replicate (width - digits.length) '0' ++ digits

/-- The value of a list of digit values, most significant first. -/
def valueOfDigits (base : Nat) (digits : List Nat) : Nat :=
  digits.foldl (fun value digit => value * base + digit) 0

/-! ## Splitting and joining -/

/-- The texts joined with a separator between neighbours. -/
def join (separator : Text) (texts : List Text) : Text := List.intercalate separator texts

/-- Does the text include `part` as a run of consecutive code points? -/
def includes (part : Text) : Text → Bool
  | [] => part.isEmpty
  | c :: rest => part.isPrefixOf (c :: rest) || includes part rest

/-- The text cut at every occurrence of the separator character. -/
def splitOn (separator : Char) : Text → List Text
  | [] => [[]]
  | c :: rest =>
    match splitOn separator rest with
    | [] => [[c]]
    | first :: others => if c = separator then [] :: first :: others else (c :: first) :: others

/-- Every occurrence of one character replaced by another. -/
def replaceChar (old new : Char) (text : Text) : Text :=
  text.map fun c => if c = old then new else c

/-- The text without the longest runs of `p` at either end. -/
def trimBy (p : Char → Bool) (text : Text) : Text :=
  ((text.dropWhile p).reverse.dropWhile p).reverse

end Text
end FixedExtract

namespace FixedExtract.Text

/-! ## The order of texts

Texts are ordered by their code points, a text before its continuations.
-/

/-- Is the first text before the second, or the same? -/
def le : Text → Text → Bool
  | [], _ => true
  | _ :: _, [] => false
  | c :: s, d :: t => if c = d then le s t else Nat.blt c.toNat d.toNat

/-- Texts in ascending order, each once. -/
def sortedSet (texts : List Text) : List Text := (texts.mergeSort le).eraseDups

end FixedExtract.Text
