import FixedExtract.Value.Basic
import FixedExtract.Yaml.Graph
import FixedExtract.Yaml.Scalar.Value
/-!
# Filling collections

What the nodes of a document stand for. A collection is empty at first and gets its contents after the
collections that were met before it, level by level, so that of two faults the one nearer to the root is
found first. A node that is met again stands for the same thing.
-/

namespace FixedExtract.Yaml

/-! ## Merge keys

A merge key brings the entries of other mappings in front of a mapping's own. What it brings in is merged
first, in place, so that a mapping that is used more than once is merged once. A mapping that brings in
itself gets the entries that are no merge keys.
-/

abbrev Merging := StateT Graph (Except Fault)

namespace Graph

/-- The value of the first merge key among entries, and the other entries. -/
def takeMerge? (g : Graph) : NodeEntries → Option (NodeId × NodeEntries)
  | [] => none
  | (key, value) :: rest =>
    if (g.node key).tag = .merge then some (value, rest)
    else (g.takeMerge? rest).map fun (found, others) => (found, (key, value) :: others)

/-- The number of merge keys among the entries of all nodes. -/
def mergeCount (g : Graph) : Nat :=
  g.nodes.foldl (fun count node =>
    match node.content with
    | .mapping entries =>
      entries.foldl (fun count entry => if (g.node entry.1).tag = .merge then count + 1 else count) count
    | _ => count) 0

end Graph

/-- Merges into a mapping what its merge keys bring in, behind what they have brought in already. Keys
that are equals signs become texts. The fuel is more than the merge keys that are left. -/
def mergeInto : (fuel : Nat) → NodeId → (brought : NodeEntries) → Merging Unit
  | 0, _, _ => throw .malformed
  | fuel + 1, id, brought => do
    let g ← get
    let own := g.entries id
    match g.takeMerge? own with
    | none => set ((own.foldl (fun g entry => g.setTextKey entry.1) g).setContent id (.mapping (brought ++ own)))
    | some (value, others) =>
      set (g.setContent id (.mapping others))
      match (g.node value).content with
      | .scalar _ => throw .malformed
      | .mapping _ =>
        mergeInto fuel value []
        mergeInto fuel id (brought ++ (← get).entries value)
      | .sequence items =>
        -- The entries of the last mapping come first.
        let parts ← items.mapM fun item => do
          match ((← get).node item).content with
          | .mapping _ =>
            mergeInto fuel item []
            return (← get).entries item
          | _ => throw .malformed
        mergeInto fuel id (brought ++ parts.reverse.flatten)

/-- Merges into a mapping what its merge keys bring in. -/
def merge (id : NodeId) : Merging Unit := do
  mergeInto ((← get).mergeCount + 1) id []

/-! ## Keys -/

/-- The moment in universal time, when the offset is known. -/
def instant? (m : Moment) : Option Int :=
  m.offset.map fun offset =>
    ((m.date.dayNumber * 86400 + (m.time.hour * 60 + m.time.minute) * 60 + m.time.second : Nat) : Int)
      * 1000000 + m.time.microsecond - offset

/-- The integer that a flag or a number is equal to. -/
def integral? : Value → Option Int
  | .bool b => some (if b then 1 else 0)
  | .int n => some n
  | .float x => x.toInt?
  | _ => none

/-- Do two values count as the same key? Numbers do when they are equal, whatever their type. -/
def sameKey (a b : Value) : Bool :=
  match a, b with
  | .null, .null => true
  | .text s, .text t => s == t
  | .bytes s, .bytes t => s == t
  | .date d, .date e => d == e
  | .moment m, .moment n =>
    match instant? m, instant? n with
    | some s, some t => s == t
    | none, none => m == n
    | _, _ => false
  | .float x, .float y => x == y || (integral? a).isSome && integral? a == integral? b
  | _, _ => (integral? a).isSome && integral? a == integral? b

/-! ## What nodes stand for -/

/-- What a node stands for. The contents of a collection are given by their nodes. -/
inductive Meaning where
  | plain (value : Value)
  | list (items : List NodeId)
  | tuples (entries : NodeEntries)
  | set (items : List NodeId)
  | map (entries : NodeEntries)
  deriving Repr, Inhabited

/-- A document that is being filled: its nodes, what those stand for that were met, and the collections
that wait for their contents. -/
structure Filling where
  graph : Graph
  meanings : Array (Option Meaning)
  waiting : List NodeId
  deriving Repr

namespace Filling

def start (graph : Graph) : Filling := ⟨graph, Array.replicate graph.size none, []⟩

/-- What a node that was met stands for; null for any other. -/
def meaning (s : Filling) (id : NodeId) : Meaning := (s.meanings.getD id none).getD (.plain .null)

/-- The value of a key. -/
def keyValue (s : Filling) (id : NodeId) : Value :=
  match s.meaning id with
  | .plain value => value
  | _ => .null

def mean (s : Filling) (id : NodeId) (meaning : Meaning) : Filling :=
  { s with meanings := s.meanings.setIfInBounds id (some meaning) }

/-- Replaces the value under a key, or adds an entry. -/
def putKey (s : Filling) (key value : NodeId) : NodeEntries → NodeEntries
  | [] => [(key, value)]
  | (k, v) :: rest =>
    if k = key || sameKey (s.keyValue k) (s.keyValue key) then (k, value) :: rest
    else (k, v) :: putKey s key value rest

/-- The entries of a map, a later one replacing the value of an earlier one. -/
def distinct (s : Filling) (entries : NodeEntries) : NodeEntries :=
  entries.foldl (fun kept entry => s.putKey entry.1 entry.2 kept) []

end Filling

abbrev Fill := StateT Filling (Except Fault)

/-- Does the tag say that a node has contents? -/
def Tag.isCollection : Tag → Bool
  | .omap => true
  | .pairs => true
  | .set => true
  | .list => true
  | .map => true
  | _ => false

/-- Meets a node: a collection is put among those that wait, any other node gets its value. -/
def meet (id : NodeId) : Fill Unit := do
  let s ← get
  if (s.meanings.getD id none).isSome then return ()
  let tag := (s.graph.node id).tag
  if tag.isCollection then set { s.mean id (.list []) with waiting := id :: s.waiting }
  else
    match s.graph.scalarText? (s.graph.size + 1) id with
    | some text => set (s.mean id (.plain (← scalarValue text tag)))
    | none => throw .malformed

/-- Meets the keys and the values of entries. A collection cannot be a key. -/
def meetEntries (entries : NodeEntries) : Fill Unit :=
  entries.forM fun (key, value) => do
    meet key
    if ((← get).graph.node key).tag.isCollection then throw .malformed
    meet value

/-- The entry of an item of an ordered map, which has to be the only one. -/
def singleEntry (item : NodeId) : Fill (NodeId × NodeId) := do
  match ((← get).graph.node item).content with
  | .mapping [entry] => return entry
  | _ => throw .malformed

/-- Meets the contents of a mapping, and gives them. -/
def fillEntries (id : NodeId) : Fill NodeEntries := do
  match ((← get).graph.node id).content with
  | .mapping _ =>
    let s ← get
    let (_, graph) ← (merge id).run s.graph
    set { s with graph }
    meetEntries (graph.entries id)
    return (← get).distinct (graph.entries id)
  | _ => throw .malformed

/-- The items of a sequence. -/
def itemsOf (id : NodeId) : Fill (List NodeId) := do
  match ((← get).graph.node id).content with
  | .sequence items => return items
  | _ => throw .malformed

/-- Gives a collection its contents. -/
def fill (id : NodeId) : Fill Meaning := do
  match ((← get).graph.node id).tag with
  | .map => return .map (← fillEntries id)
  | .set => return .set ((← fillEntries id).map Prod.fst)
  | .list =>
    let items ← itemsOf id
    items.forM meet
    return .list items
  | _ =>
    let entries ← (← itemsOf id).mapM fun item => do
      let (key, value) ← singleEntry item
      meet key
      meet value
      return (key, value)
    return .tuples entries

/-- Fills the collections that wait, and those that they bring up, level by level. There are no more levels
than nodes. -/
def fillLevels : (fuel : Nat) → Fill Unit
  | 0 => return ()
  | fuel + 1 => do
    let level := (← get).waiting.reverse
    if level.isEmpty then return ()
    modify fun s => { s with waiting := [] }
    level.forM fun id => do
      let meaning ← fill id
      modify fun s => s.mean id meaning
    fillLevels fuel

/-- What the nodes of a document stand for. -/
def meanings (root : NodeId) (graph : Graph) : Except Fault Filling := do
  let (_, s) ← (do
    meet root
    fillLevels (graph.size + 1) : Fill Unit).run (.start graph)
  return s

end FixedExtract.Yaml
