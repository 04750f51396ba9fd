import FixedExtract.Text.Basic
import FixedExtract.Text.Letters
import FixedExtract.Text.Unprintable
/-!
# Character classes

The classes of code points the program tells apart: space, letters, digits and numbers, and what is
printable. All of them are given by tables of closed ranges, so that two classes are disjoint exactly
when their tables are.
-/

namespace FixedExtract.Text

/-! ## Ranges of digits and numbers

The numeric code points of Unicode 14.0 in three groups: the decimal digits, which come in runs of
ten from zero to nine; the other digits (superscripts, circled digits); and the numbers that are
neither letters nor digits (fractions, Roman numerals).
-/

/-- The code points of the decimal zeros; the nine code points after each are its digits. -/
def decimalZeros : List Nat :=
  [48, 1632, 1776, 1984, 2406, 2534, 2662, 2790, 2918, 3046, 3174, 3302, 3430, 3558, 3664, 3792,
   3872, 4160, 4240, 6112, 6160, 6470, 6608, 6784, 6800, 6992, 7088, 7232, 7248, 42528, 43216,
   43264, 43472, 43504, 43600, 44016, 65296, 66720, 68912, 69734, 69872, 69942, 70096, 70384,
   70736, 70864, 71248, 71360, 71472, 71904, 72016, 72784, 73040, 73120, 92768, 92864, 93008,
   120782, 120792, 120802, 120812, 120822, 123200, 123632, 125264, 130032]

/-- The digits that are not decimal digits, as closed ranges of code points. -/
def otherDigitRanges : List (Nat × Nat) :=
  [(178, 179), (185, 185), (4969, 4977), (6618, 6618), (8304, 8304), (8308, 8313), (8320, 8329),
   (9312, 9320), (9332, 9340), (9352, 9360), (9450, 9450), (9461, 9469), (9471, 9471),
   (10102, 10110), (10112, 10120), (10122, 10130), (68160, 68163), (69216, 69224), (69714, 69722),
   (127232, 127242)]

/-- The numbers that are neither letters nor digits, as closed ranges of code points. -/
def otherNumberRanges : List (Nat × Nat) :=
  [(188, 190), (2548, 2553), (2930, 2935), (3056, 3058), (3192, 3198), (3416, 3422), (3440, 3448),
   (3882, 3891), (4978, 4988), (5870, 5872), (6128, 6137), (8528, 8578), (8581, 8585),
   (9321, 9331), (9341, 9351), (9361, 9371), (9451, 9460), (9470, 9470), (10111, 10111),
   (10121, 10121), (10131, 10131), (11517, 11517), (12295, 12295), (12321, 12329), (12344, 12346),
   (12690, 12693), (12832, 12841), (12872, 12879), (12881, 12895), (12928, 12937), (12977, 12991),
   (42726, 42735), (43056, 43061), (65799, 65843), (65856, 65912), (65930, 65931), (66273, 66299),
   (66336, 66339), (66369, 66369), (66378, 66378), (66513, 66517), (67672, 67679), (67705, 67711),
   (67751, 67759), (67835, 67839), (67862, 67867), (68028, 68029), (68032, 68047), (68050, 68095),
   (68164, 68168), (68221, 68222), (68253, 68255), (68331, 68335), (68440, 68447), (68472, 68479),
   (68521, 68527), (68858, 68863), (69225, 69246), (69405, 69414), (69457, 69460), (69573, 69579),
   (69723, 69733), (70113, 70132), (71482, 71483), (71914, 71922), (72794, 72812), (73664, 73684),
   (74752, 74862), (93019, 93025), (93824, 93846), (119520, 119539), (119648, 119672),
   (125127, 125135), (126065, 126123), (126125, 126127), (126129, 126132), (126209, 126253),
   (126255, 126269), (127243, 127244)]

/-! ## Classes -/

/-- Is the code point in one of the closed ranges? -/
def inRanges (ranges : List (Nat × Nat)) (n : Nat) : Bool :=
  ranges.any fun range => Nat.ble range.1 n && Nat.ble n range.2

/-- The white space code points, as closed ranges: the ASCII controls tab to carriage return and
file separator to unit separator, the space, next line, and the Unicode space separators. -/
def spaceRanges : List (Nat × Nat) :=
  [(9, 13), (28, 32), (133, 133), (160, 160), (5760, 5760), (8192, 8202), (8232, 8233),
   (8239, 8239), (8287, 8287), (12288, 12288)]

def isSpace (c : Char) : Bool := inRanges spaceRanges c.toNat

def isLetter (c : Char) : Bool := inRanges letterRanges c.toNat

/-- The value of a decimal digit of any script. -/
def decimalValue? (c : Char) : Option Nat :=
  (decimalZeros.find? fun start => Nat.ble start c.toNat && Nat.blt c.toNat (start + 10)).map
    (c.toNat - ·)

/-- A decimal digit of any script. -/
def isDecimalDigit (c : Char) : Bool :=
  decimalZeros.any fun start => Nat.ble start c.toNat && Nat.blt c.toNat (start + 10)

/-- A digit in the wide sense: decimal, superscript, subscript or enclosed. -/
def isDigit (c : Char) : Bool := isDecimalDigit c || inRanges otherDigitRanges c.toNat

/-- A letter, digit or number. -/
def isAlphanumeric (c : Char) : Bool :=
  isLetter c || isDigit c || inRanges otherNumberRanges c.toNat

/-- A letter, digit, number or underscore. -/
def isWord (c : Char) : Bool := isAlphanumeric c || c = '_'

def isPrintable (c : Char) : Bool := !inRanges unprintableRanges c.toNat

/-- An ASCII digit. -/
def isAsciiDigit (c : Char) : Bool := Nat.ble 48 c.toNat && Nat.ble c.toNat 57

/-- An ASCII letter. -/
def isAsciiLetter (c : Char) : Bool :=
  (Nat.ble 65 c.toNat && Nat.ble c.toNat 90) || (Nat.ble 97 c.toNat && Nat.ble c.toNat 122)

/-- The value of an ASCII digit. -/
def asciiDigitValue (c : Char) : Nat := c.toNat - 48

/-- The value of an ASCII hexadecimal digit of either case. -/
def hexDigit? (c : Char) : Option Nat :=
  if isAsciiDigit c then some (c.toNat - 48)
  else if 97 ≤ c.toNat ∧ c.toNat ≤ 102 then some (c.toNat - 87)
  else if 65 ≤ c.toNat ∧ c.toNat ≤ 70 then some (c.toNat - 55)
  else none

/-- White space that may stand around a numeral: the four ASCII separators do not count. -/
def isNumeralSpace (c : Char) : Bool := isSpace c && !(Nat.ble 28 c.toNat && Nat.ble c.toNat 31)

/-! ### Blank text -/

/-- The text without white space at either end. -/
def strip (text : Text) : Text := trimBy isSpace text

/-- Text that is empty or holds white space only. -/
def isBlank (text : Text) : Bool := text.all isSpace

/-- A missing text counts as blank. -/
def isBlank? : Option Text → Bool
  | none => true
  | some text => isBlank text

end FixedExtract.Text
