import FixedExtract.Double
import FixedExtract.Calendar.Date
/-!
# Data values

The values that definitions, rule rows and records are written in before anything is known of their
types. A map keeps the order in which its keys first appeared. Keys are values themselves, since one of
the data formats allows any scalar as a key; the lookups here are by text. The same format has collections
that hold themselves: these are rings, which open into their own contents as often as they are looked at.
-/

namespace FixedExtract

inductive Value where
  | null
  | bool (b : Bool)
  | int (n : Int)
  | float (x : Double)
  | text (t : Text)
  | date (d : Date)
  | moment (m : Moment)
  | bytes (bs : List Nat)
  | list (items : List Value)
  | tuple (items : List Value)
  | set (items : List Value)
  | map (entries : List (Value × Value))
  /-- A collection that holds itself: inside it, `again` with its label stands for it. -/
  | ring (label : Nat) (collection : Value)
  | again (label : Nat)
  deriving Repr, Inhabited

/-- The entries of a map, in order. -/
abbrev Entries := List (Value × Value)

namespace Value

instance : Coe Text Value := ⟨Value.text⟩

/-- Is the value the given text? -/
def isText (key : Text) : Value → Bool
  | .text t => t == key
  | _ => false

def isNull : Value → Bool
  | .null => true
  | _ => false

/-! ## Rings -/

mutual

/-- Puts a value in every place of a value that a label stands for. -/
def close (label : Nat) (whole : Value) : Value → Value
  | .again l => if l = label then whole else .again l
  | .ring l v => if l = label then .ring l v else .ring l (close label whole v)
  | .list items => .list (closeAll label whole items)
  | .tuple items => .tuple (closeAll label whole items)
  | .set items => .set (closeAll label whole items)
  | .map entries => .map (closeEntries label whole entries)
  | v => v

def closeAll (label : Nat) (whole : Value) : List Value → List Value
  | [] => []
  | v :: rest => close label whole v :: closeAll label whole rest

def closeEntries (label : Nat) (whole : Value) : List (Value × Value) → List (Value × Value)
  | [] => []
  | (k, v) :: rest => (k, close label whole v) :: closeEntries label whole rest

end

/-- The label of a ring. -/
def label? : Value → Option Nat
  | .ring label _ => some label
  | _ => none

/-- The value with its contents in sight: a ring is the collection it stands for, whose contents hold the
ring where they held its label. -/
def opened : Value → Value
  | .ring label v => close label (.ring label v) v
  | v => v

end Value

namespace Entries

/-- The value under a text key. -/
def get? (key : Text) : Entries → Option Value
  | [] => none
  | (k, v) :: rest => if k.isText key then some v else get? key rest

/-- Does some entry have the text as its key? -/
def has (key : Text) (entries : Entries) : Bool := entries.any fun entry => entry.1.isText key

/-- The entries without those under a text key. -/
def without (key : Text) (entries : Entries) : Entries :=
  entries.filter fun entry => !entry.1.isText key

/-- Replaces the value under a text key in place, or adds an entry at the end. -/
def put (key : Text) (value : Value) : Entries → Entries
  | [] => [(.text key, value)]
  | (k, v) :: rest => if k.isText key then (k, value) :: rest else (k, v) :: put key value rest

/-- Entries with text keys, given as pairs of which a later one replaces the value of an earlier one
with the same key. -/
def ofPairs (pairs : List (Text × Value)) : Entries :=
  pairs.foldl (fun entries pair => put pair.1 pair.2 entries) []

/-- The value under a key; a missing key reads as null. -/
def getD (key : Text) (entries : Entries) : Value := (get? key entries).getD .null

end Entries
end FixedExtract
