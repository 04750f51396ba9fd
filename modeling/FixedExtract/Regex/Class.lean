import FixedExtract.Regex.Pattern
import FixedExtract.Text.Case
/-!
# Tests of one character

What the items of width one ask of a character. When case is ignored, a character is made small before it is
tested, and small letters that share a capital count as the same. A set keeps its items as they are written when
none of them has another case; otherwise its characters up to U+FFFF are compared by their small letters, single
characters beyond that must be small already, and ranges that reach beyond it are searched for the small letter and
for its capital.
-/

namespace FixedExtract.Regex

/-! ## Case -/

/-- Small letters with the other small letters that share their capital. -/
def sameCapital : List (Nat × List Nat) :=
  [(0x69, [0x131]), (0x73, [0x17f]), (0xb5, [0x3bc]), (0x131, [0x69]), (0x17f, [0x73]),
   (0x345, [0x3b9, 0x1fbe]), (0x390, [0x1fd3]), (0x3b0, [0x1fe3]), (0x3b2, [0x3d0]),
   (0x3b5, [0x3f5]), (0x3b8, [0x3d1]), (0x3b9, [0x345, 0x1fbe]), (0x3ba, [0x3f0]),
   (0x3bc, [0xb5]), (0x3c0, [0x3d6]), (0x3c1, [0x3f1]), (0x3c2, [0x3c3]), (0x3c3, [0x3c2]),
   (0x3c6, [0x3d5]), (0x3d0, [0x3b2]), (0x3d1, [0x3b8]), (0x3d5, [0x3c6]), (0x3d6, [0x3c0]),
   (0x3f0, [0x3ba]), (0x3f1, [0x3c1]), (0x3f5, [0x3b5]), (0x432, [0x1c80]), (0x434, [0x1c81]),
   (0x43e, [0x1c82]), (0x441, [0x1c83]), (0x442, [0x1c84, 0x1c85]), (0x44a, [0x1c86]),
   (0x463, [0x1c87]), (0x1c80, [0x432]), (0x1c81, [0x434]), (0x1c82, [0x43e]), (0x1c83, [0x441]),
   (0x1c84, [0x442, 0x1c85]), (0x1c85, [0x442, 0x1c84]), (0x1c86, [0x44a]), (0x1c87, [0x463]),
   (0x1c88, [0xa64b]), (0x1e61, [0x1e9b]), (0x1e9b, [0x1e61]), (0x1fbe, [0x345, 0x3b9]),
   (0x1fd3, [0x390]), (0x1fe3, [0x3b0]), (0xa64b, [0x1c88]), (0xfb05, [0xfb06]),
   (0xfb06, [0xfb05])]

/-- How a character is made small before it is tested. -/
inductive Fold where
  | none
  | ascii
  | full
  deriving DecidableEq, Repr

/-- Is the code point that of a surrogate, which no character has? -/
def isSurrogate (code : Nat) : Bool := Nat.ble 0xd800 code && Nat.ble code 0xdfff

def isAsciiCapital (code : Nat) : Bool := Nat.ble 65 code && Nat.ble code 90

def isAsciiSmall (code : Nat) : Bool := Nat.ble 97 code && Nat.ble code 122

/-- The single capital of a code point. -/
def upperCode (code : Nat) : Nat :=
  if isSurrogate code then code else (Text.upperOne (Char.ofNat code)).toNat

namespace Fold

/-- The small letter of a code point. -/
def lower : Fold → Nat → Nat
  | .none, code => code
  | .ascii, code => if isAsciiCapital code then code + 32 else code
  | .full, code => if isSurrogate code then code else (Text.lowerOne (Char.ofNat code)).toNat

/-- Has a code point between `low` and `high` another case? -/
def hasCaseWithin : Fold → (low high : Nat) → Bool
  | .none, _, _ => false
  | .ascii, low, high =>
    (Nat.ble low 90 && Nat.ble 65 high) || (Nat.ble low 122 && Nat.ble 97 high)
  | .full, low, high => Text.hasCaseWithin low high

/-- The code points whose small letter is `small`. -/
def withLower (fold : Fold) (small : Nat) : List Nat :=
  let capitals :=
    match fold with
    | .none => []
    | .ascii => if isAsciiSmall small then [small - 32] else []
    | .full =>
      Text.lowerRuns.filterMap fun run =>
        let capital := ((small : Int) - run.shift).toNat
        if run.contains capital && Fold.full.lower capital == small then some capital else Option.none
  (if fold.lower small = small then [small] else []) ++ capitals

/-- The small letters that count as the same as `small`. -/
def alike (fold : Fold) (small : Nat) : List Nat :=
  small :: (if fold = .full then (sameCapital.lookup small).getD [] else [])

end Fold

/-- The fold that the flags ask for. -/
def Flags.fold (flags : Flags) : Fold :=
  if !flags.ignoreCase then .none else if flags.ascii then .ascii else .full

/-! ## Tests -/

/-- Is the code point in a category? -/
def inCategory (ascii : Bool) (code : Nat) : Category → Bool
  | .digit =>
    if ascii then Nat.ble 48 code && Nat.ble code 57 else Text.isDecimalDigit (Char.ofNat code)
  | .space =>
    if ascii then code = 32 || (Nat.ble 9 code && Nat.ble code 13)
    else Text.isSpace (Char.ofNat code)
  | .word =>
    if ascii then (Nat.ble 48 code && Nat.ble code 57) || isAsciiCapital code || isAsciiSmall code || code = 95
    else Text.isWord (Char.ofNat code)

/-- What a code point that was made small may be in a set: a code point, between two of them, between two of them
itself or with its capital, alike to the small letter of one between two of them, or in a category. -/
inductive Member where
  | only (code : Nat)
  | within (low high : Nat)
  | withinEither (low high : Nat)
  | alikeWithin (low high : Nat)
  | inCategory (category : Category) (negated ascii : Bool)
  deriving DecidableEq, Repr

/-- What one character must be: any, except perhaps a line end; one code point; or a member of a set. -/
inductive Test where
  | any (lineEnds : Bool)
  | equal (fold : Fold) (negated : Bool) (code : Nat)
  | among (fold : Fold) (negated : Bool) (members : List Member)
  deriving DecidableEq, Repr

/-- Is a code point between two others? -/
def isWithin (low high code : Nat) : Bool := Nat.ble low code && Nat.ble code high

def Member.holds (fold : Fold) (small : Nat) : Member → Bool
  | .only code => small == code
  | .within low high => isWithin low high small
  | .withinEither low high => isWithin low high small || isWithin low high (upperCode small)
  | .alikeWithin low high =>
    (fold.alike small).any fun other => (fold.withLower other).any (isWithin low high)
  | .inCategory category negated ascii => Regex.inCategory ascii small category != negated

namespace Test

def holds (c : Char) : Test → Bool
  | .any lineEnds => lineEnds || c != '\n'
  | .equal fold negated code => (fold.lower c.toNat == code) != negated
  | .among fold negated members =>
    let small := fold.lower c.toNat
    (members.any fun member => member.holds fold small) != negated

/-- The code point that a test asks for when nothing is made small. -/
def literal? : Test → Option Nat
  | .equal .none false code => some code
  | _ => none

/-- Is it a set of characters that are made small? -/
def isFoldedSet : Test → Bool
  | .among fold _ _ => fold != .none
  | _ => false

/-- The test for a code point, or for all others. -/
def ofCode (flags : Flags) (negated : Bool) (code : Nat) : Test :=
  let fold := flags.fold
  if !fold.hasCaseWithin code code then .equal .none negated code
  else
    let small := fold.lower code
    match fold.alike small with
    | [_] => .equal fold negated small
    | smalls => .among fold negated (smalls.map .only)

end Test

/-! ## Sets -/

/-- The last code point that sets list by small letters. -/
def lastListed : Nat := 0xffff

/-- Does the item of a set make the whole set ignore case? -/
def SetItem.isCased (fold : Fold) : SetItem → Bool
  | .literal code => Nat.blt lastListed code || fold.hasCaseWithin code code
  | .range low high => Nat.blt lastListed high || fold.hasCaseWithin low high
  | .category .. => false

/-- The members of a set that leaves characters as they are. -/
def SetItem.plainMember (ascii : Bool) : SetItem → Member
  | .literal code => .only code
  | .range low high => .within low high
  | .category kind negated => .inCategory kind negated ascii

/-- The members of a set that ignores case. -/
def SetItem.foldedMembers (ascii : Bool) : SetItem → List Member
  | .literal code => if lastListed < code then [.only code] else [.alikeWithin code code]
  | .range low high =>
    if lastListed < high then [.alikeWithin low lastListed, .withinEither low high]
    else [.alikeWithin low high]
  | .category kind negated => [.inCategory kind negated ascii]

/-- The test for a set. -/
def Test.ofSet (flags : Flags) (negated : Bool) (items : List SetItem) : Test :=
  let fold := flags.fold
  match negated, items with
  | true, [.literal code] => .ofCode flags true code
  | negated, items =>
    if fold != .none && items.any (·.isCased fold) then
      .among fold negated (items.flatMap (·.foldedMembers flags.ascii))
    else .among .none negated (items.map (·.plainMember flags.ascii))

/-- The test that an item of width one stands for; other items stand for none. -/
def Item.test? (flags : Flags) : Item → Option Test
  | .literal code => some (.ofCode flags false code)
  | .any => some (.any flags.dotAll)
  | .set negated items => some (.ofSet flags negated items)
  | _ => none

end FixedExtract.Regex
