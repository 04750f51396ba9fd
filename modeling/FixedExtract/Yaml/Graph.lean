import FixedExtract.Yaml.Fault
import FixedExtract.Yaml.Tag
/-!
# Graphs of nodes

The nodes of a document, numbered in the order in which they begin. A collection names what is in it by
number, since an alias stands for the very node that was named before it: a node may be in several
collections, and a collection may be inside itself.
-/

namespace FixedExtract.Yaml

abbrev NodeId := Nat

abbrev NodeEntries := List (NodeId × NodeId)

inductive Content where
  | scalar (text : Text)
  | sequence (items : List NodeId)
  | mapping (entries : NodeEntries)
  deriving DecidableEq, Repr

structure Node where
  tag : Tag
  content : Content
  deriving DecidableEq, Repr

/-- The null that stands where nothing is written. -/
def Node.empty : Node := ⟨.null, .scalar []⟩

structure Graph where
  nodes : Array Node
  deriving Repr

namespace Graph

def empty : Graph := ⟨#[]⟩

def size (g : Graph) : Nat := g.nodes.size

/-- The node with a number. -/
def node (g : Graph) (id : NodeId) : Node := g.nodes.getD id .empty

/-- Adds a node, which gets the next number. -/
def push (g : Graph) (node : Node) : Graph := ⟨g.nodes.push node⟩

/-- Replaces a node. -/
def set (g : Graph) (id : NodeId) (node : Node) : Graph := ⟨g.nodes.setIfInBounds id node⟩

/-- Replaces the content of a node. -/
def setContent (g : Graph) (id : NodeId) (content : Content) : Graph :=
  g.set id { g.node id with content }

/-- The entries of a node; there are none in what is no mapping. -/
def entries (g : Graph) (id : NodeId) : NodeEntries :=
  match (g.node id).content with
  | .mapping entries => entries
  | _ => []

/-- Makes a text of an equals sign that is a key. -/
def setTextKey (g : Graph) (key : NodeId) : Graph :=
  let node := g.node key
  if node.tag = .value then g.set key { node with tag := .text } else g

/-- The text of a node that has to be a scalar. A mapping may give it under an equals sign. The fuel bounds
how deep such mappings nest. -/
def scalarText? (g : Graph) : (fuel : Nat) → NodeId → Option Text
  | 0, _ => none
  | fuel + 1, id =>
    match (g.node id).content with
    | .scalar text => some text
    | .sequence _ => none
    | .mapping entries =>
      match entries.find? fun entry => (g.node entry.1).tag = .value with
      | some (_, value) => g.scalarText? fuel value
      | none => none

end Graph
end FixedExtract.Yaml
