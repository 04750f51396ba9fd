import FixedExtract.Yaml.Filling
import FixedExtract.Yaml.Lexer
import FixedExtract.Yaml.Node
/-!
# Reading YAML

The values of the documents of a text. A document gets its value before the next one is read, unless
there may be only one.
-/

namespace FixedExtract.Yaml

/-! ## Unfolding documents

The value of a document. A collection that is inside itself becomes a ring. What holds no ring has a value
that does not depend on where it stands, so it is unfolded once.
-/

/-- A value, and the labels in it that stand for collections around it. -/
structure Unfolded where
  value : Value
  labels : List NodeId
  deriving Repr

namespace Unfolded

/-- The labels of several values. -/
def labelsOf (parts : List Unfolded) : List NodeId := (parts.flatMap Unfolded.labels).eraseDups

/-- A collection, which is a ring when it holds labels, its own or those of collections around it. -/
def ofCollection (id : NodeId) (collection : Value) (labels : List NodeId) : Unfolded :=
  if labels.isEmpty then ⟨collection, []⟩ else ⟨.ring id collection, labels.filter (· ≠ id)⟩

end Unfolded

/-- The values that have been unfolded. -/
abbrev Unfold := StateM (Array (Option Value))

/-- Keeps the value of a collection without labels. -/
def keep (id : NodeId) (collection : Value) (labels : List NodeId) : Unfold Unfolded := do
  if labels.isEmpty then modify fun kept => kept.setIfInBounds id (some collection)
  return .ofCollection id collection labels

/-- Unfolds what a node stands for inside the collections `around` it, of which there are fewer than the
fuel. -/
def unfold (s : Filling) : (fuel : Nat) → (around : List NodeId) → NodeId → Unfold Unfolded
  | 0, _, _ => return ⟨.null, []⟩
  | fuel + 1, around, id => do
    if around.elem id then return ⟨.again id, [id]⟩
    match (← get).getD id none with
    | some value => return ⟨value, []⟩
    | none =>
      let part := unfold s fuel (id :: around)
      match s.meaning id with
      | .plain value => return ⟨value, []⟩
      | .list items =>
        let parts ← items.mapM part
        keep id (.list (parts.map Unfolded.value)) (Unfolded.labelsOf parts)
      | .tuples entries =>
        let keys ← entries.mapM fun entry => part entry.1
        let values ← entries.mapM fun entry => part entry.2
        let tuples := List.zipWith (fun k v => Value.tuple [k.value, v.value]) keys values
        keep id (.list tuples) (Unfolded.labelsOf (keys ++ values))
      | .set items =>
        let parts ← items.mapM part
        keep id (.set (parts.map Unfolded.value)) (Unfolded.labelsOf parts)
      | .map entries =>
        let values ← entries.mapM fun entry => part entry.2
        let pairs := List.zipWith (fun entry v => (s.keyValue entry.1, v.value)) entries values
        keep id (.map pairs) (Unfolded.labelsOf values)

/-- The value of a document. -/
def valueOf (root : NodeId) (graph : Graph) : Except Fault Value := do
  let s ← meanings root graph
  let (unfolded, _) := (unfold s (graph.size + 1) [] root).run (Array.replicate graph.size none)
  return unfolded.value

/-! ## Documents of a text -/

/-- The characters that a text may hold. -/
def isAllowed (c : Char) : Bool :=
  let n := c.toNat
  n = 9 || n = 10 || n = 13 || (32 ≤ n && n ≤ 126) || n = 133 || (160 ≤ n && n ≤ 0xd7ff) ||
    (0xe000 ≤ n && n ≤ 0xfffd) || 0x10000 ≤ n

/-- What reading a text starts from. -/
def startReading (text : Text) : Except Fault Reading :=
  if text.all isAllowed then
    let (tokens, fault) := tokens text
    .ok ⟨tokens, fault, .empty, [], []⟩
  else .error .malformed

/-- The value of a document that has started, and what is left to read. -/
def readValue (start : Start) (reading : Reading) : Except Fault (Value × Reading) := do
  let (root, reading) ← (readRoot start).run reading
  return (← valueOf root reading.graph, reading)

/-- The values of the documents that are left. -/
def readRest : (fuel : Nat) → (first : Bool) → Reading → Except Fault (List Value)
  | 0, _, _ => .error .malformed
  | fuel + 1, first, reading => do
    match ← (readStart first).run reading with
    | (none, _) => return []
    | (some start, reading) =>
      let (value, reading) ← readValue start reading
      return value :: (← readRest fuel false reading)

/-- The values of all documents of a text. -/
def readAll (text : Text) : Except Fault (List Value) := do
  let reading ← startReading text
  readRest (reading.tokens.length + 2) true reading

/-- The value of the only document of a text; null when there is none. -/
def read (text : Text) : Except Fault Value := do
  let reading ← startReading text
  match ← (readStart true).run reading with
  | (none, _) => return .null
  | (some start, reading) =>
    let (root, reading) ← (readRoot start).run reading
    match ← (readStart false).run reading with
    | (none, _) => valueOf root reading.graph
    | (some _, _) => throw .malformed

end FixedExtract.Yaml
