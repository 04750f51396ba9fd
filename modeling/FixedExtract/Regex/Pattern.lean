import FixedExtract.Text.Basic
/-!
# Patterns

The syntax of regular expressions with groups, back references, lookaround, and greedy, lazy and
possessive repetition. A sequence is a list of items. Literals are code points, since an escape may name
one that no character has.
-/

namespace FixedExtract.Regex

/-! ## Flags -/

/-- What changes the meaning of a pattern. -/
structure Flags where
  ignoreCase : Bool
  multiLine : Bool
  dotAll : Bool
  verbose : Bool
  ascii : Bool
  unicode : Bool
  template : Bool
  deriving DecidableEq, Repr

namespace Flags

def none : Flags := ⟨false, false, false, false, false, false, false⟩

/-- The flags with others turned on. -/
def union (a b : Flags) : Flags :=
  { ignoreCase := a.ignoreCase || b.ignoreCase
    multiLine := a.multiLine || b.multiLine
    dotAll := a.dotAll || b.dotAll
    verbose := a.verbose || b.verbose
    ascii := a.ascii || b.ascii
    unicode := a.unicode || b.unicode
    template := a.template || b.template }

/-- The flags with others turned off. -/
def without (a b : Flags) : Flags :=
  { ignoreCase := a.ignoreCase && !b.ignoreCase
    multiLine := a.multiLine && !b.multiLine
    dotAll := a.dotAll && !b.dotAll
    verbose := a.verbose && !b.verbose
    ascii := a.ascii && !b.ascii
    unicode := a.unicode && !b.unicode
    template := a.template && !b.template }

/-- The flags that are on in both. -/
def common (a b : Flags) : Flags := a.without (a.without b)

/-- Is a flag on that says which characters are known? -/
def hasAlphabet (a : Flags) : Bool := a.ascii || a.unicode

/-- The flags inside a group that turns some on and others off. -/
def inGroup (a on off : Flags) : Flags :=
  ((if on.hasAlphabet then { a with ascii := false, unicode := false } else a).union on).without off

/-- The flag of a letter. -/
def ofLetter? (c : Char) : Option Flags :=
  if c = 'i' then some { none with ignoreCase := true }
  else if c = 'm' then some { none with multiLine := true }
  else if c = 's' then some { none with dotAll := true }
  else if c = 'x' then some { none with verbose := true }
  else if c = 'a' then some { none with ascii := true }
  else if c = 'u' then some { none with unicode := true }
  else if c = 't' then some { none with template := true }
  else Option.none

end Flags

/-! ## Items -/

inductive Category where
  | digit
  | space
  | word
  deriving DecidableEq, Repr

/-- What a character set may list. -/
inductive SetItem where
  | literal (code : Nat)
  | range (low high : Nat)
  | category (category : Category) (negated : Bool)
  deriving DecidableEq, Repr

/-- A condition on the place between two characters. -/
inductive Anchor where
  | lineStart
  | lineEnd
  | textStart
  | textEnd
  | boundary
  | noBoundary
  deriving DecidableEq, Repr

/-- How many repetitions are tried first, and whether fewer or more are tried later. -/
inductive Mode where
  | greedy
  | lazy
  | possessive
  deriving DecidableEq, Repr

inductive Item where
  | literal (code : Nat)
  | any
  | set (negated : Bool) (items : List SetItem)
  | anchor (anchor : Anchor)
  | branch (alternatives : List (List Item))
  | group (index : Option Nat) (on off : Flags) (body : List Item)
  | atomic (body : List Item)
  | repeated (mode : Mode) (least : Nat) (most : Option Nat) (body : List Item)
  | look (ahead negated : Bool) (width : Nat) (body : List Item)
  | backReference (index : Nat)
  | conditional (index : Nat) (yes no : List Item)
  deriving Repr, Inhabited

/-- The items of a set without those that stand there before. -/
def distinctItems : List SetItem → List SetItem
  | [] => []
  | item :: rest => item :: (distinctItems rest).filter (· ≠ item)

/-- Are two items that hold no others the same? -/
def Item.sameAs : Item → Item → Bool
  | .literal a, .literal b => a == b
  | .any, .any => true
  | .set m xs, .set n ys => m == n && xs == ys
  | .anchor a, .anchor b => a == b
  | .backReference a, .backReference b => a == b
  | _, _ => false

/-- A pattern as a whole. -/
structure Pattern where
  flags : Flags
  items : List Item
  deriving Repr

/-! ## Widths -/

/-- The fewest and the most characters that something matches. -/
structure Width where
  least : Nat
  most : Nat
  deriving DecidableEq, Repr

namespace Width

/-- Numbers of repetitions stay below this one. -/
def repeatLimit : Nat := Nat.pow 2 32 - 1

/-- The width with least widths of `repeatLimit` and more, and most widths above it, not told apart. -/
def capped (least most : Nat) : Width := ⟨min least (repeatLimit - 1), min most repeatLimit⟩

def zero : Width := ⟨0, 0⟩

def one : Width := ⟨1, 1⟩

def add (a b : Width) : Width := capped (a.least + b.least) (a.most + b.most)

/-- The width of one or the other. -/
def either (a b : Width) : Width := ⟨min a.least b.least, max a.most b.most⟩

/-- The width of some repetitions. -/
def times (a : Width) (least : Nat) (most : Option Nat) : Width :=
  capped (a.least * least) (a.most * most.getD repeatLimit)

end Width

mutual

/-- The width of an item, given those of the groups before it. -/
def itemWidth (groups : Nat → Width) : Item → Width
  | .literal _ => .one
  | .any => .one
  | .set .. => .one
  | .anchor _ => .zero
  | .branch alternatives => branchWidth groups alternatives
  | .group _ _ _ body => width groups body
  | .atomic body => width groups body
  | .repeated _ least most body => (width groups body).times least most
  | .look .. => .zero
  | .backReference index => groups index
  | .conditional _ yes no => (width groups yes).either (width groups no)

/-- The width of a sequence. -/
def width (groups : Nat → Width) : List Item → Width
  | [] => .zero
  | item :: rest => (itemWidth groups item).add (width groups rest)

/-- The width of some alternatives. -/
def branchWidth (groups : Nat → Width) : List (List Item) → Width
  | [] => .zero
  | [last] => width groups last
  | first :: rest => (width groups first).either (branchWidth groups rest)

end

mutual

/-- Does a repetition occur in an item? -/
def itemRepeats : Item → Bool
  | .repeated .. => true
  | .branch alternatives => anyRepeats alternatives
  | .group _ _ _ body => repeats body
  | .atomic body => repeats body
  | .look _ _ _ body => repeats body
  | .conditional _ yes no => repeats yes || repeats no
  | _ => false

/-- Does a repetition occur in a sequence? -/
def repeats : List Item → Bool
  | [] => false
  | item :: rest => itemRepeats item || repeats rest

def anyRepeats : List (List Item) → Bool
  | [] => false
  | first :: rest => repeats first || anyRepeats rest

end

end FixedExtract.Regex
