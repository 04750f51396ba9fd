import FixedExtract.Yaml.Document
import FixedExtract.Yaml.Graph
import Mathlib.Data.List.Forall2
/-!
# Documents in graphs

The nodes of a document are numbered from the outside in, so a graph that grows, or in which only earlier
nodes are replaced, stands for the same document.
-/

namespace FixedExtract.Yaml

namespace Graph

variable {g : Graph} {node : Node} {id other : NodeId}

/-! ## Nodes -/

@[simp] theorem size_push : (g.push node).size = g.size + 1 := Array.size_push node

@[simp] theorem size_set : (g.set id node).size = g.size := Array.size_setIfInBounds

theorem node_eq (g : Graph) (id : NodeId) : g.node id = g.nodes[id]?.getD .empty :=
  Array.getD_eq_getD_getElem?

theorem node_push_self : (g.push node).node g.size = node := by
  simp [node_eq, push, size]

theorem node_push_of_lt (h : id < g.size) : (g.push node).node id = g.node id := by
  have apart : id ≠ g.nodes.size := Nat.ne_of_lt h
  simp [node_eq, push, Array.getElem?_push, apart]

theorem node_set_self (h : id < g.size) : (g.set id node).node id = node := by
  rw [node_eq, set, Array.getElem?_setIfInBounds_self_of_lt h]
  rfl

theorem node_set_of_ne (h : other ≠ id) : (g.set id node).node other = g.node other := by
  rw [node_eq, node_eq, set, Array.getElem?_setIfInBounds_ne h.symm]

/-- What is not the empty node has been added. -/
theorem lt_size_of_node (h : g.node id ≠ .empty) : id < g.size := by
  refine Nat.lt_of_not_le fun outside => h ?_
  rw [node_eq, Array.getElem?_eq_none outside]
  rfl

/-- The nodes of the first graph are also in the second one. -/
structure Extends (g g' : Graph) : Prop where
  size : g.size ≤ g'.size
  node : ∀ id < g.size, g'.node id = g.node id

namespace Extends

variable {g₁ g₂ g₃ : Graph}

theorem refl (g : Graph) : Extends g g := ⟨Nat.le_refl _, fun _ _ => rfl⟩

theorem trans (first : Extends g₁ g₂) (second : Extends g₂ g₃) : Extends g₁ g₃ where
  size := Nat.le_trans first.size second.size
  node id h := (second.node id (Nat.lt_of_lt_of_le h first.size)).trans (first.node id h)

theorem push (g : Graph) (node : Node) : Extends g (g.push node) := ⟨by simp, fun _ h => node_push_of_lt h⟩

end Extends
end Graph

/-! ## Documents -/

/-- The tag of the node of a document. -/
def Document.nodeTag : Document → Tag
  | .text _ => .text
  | .int _ => .int
  | .list _ => .list
  | .map _ => .map

mutual

/-- The node stands for the document. What is in a collection are later nodes. -/
def StandsFor (g : Graph) (id : NodeId) : Document → Prop
  | .text t => g.node id = ⟨.text, .scalar t⟩
  | .int n => g.node id = ⟨.int, .scalar (Text.ofInt n)⟩
  | .list items => ∃ ids, g.node id = ⟨.list, .sequence ids⟩ ∧ (∀ i ∈ ids, id < i) ∧ ItemsStand g ids items
  | .map entries => ∃ ids, g.node id = ⟨.map, .mapping ids⟩ ∧ (∀ i ∈ ids, id < i.1 ∧ id < i.2) ∧
      EntriesStand g ids entries

def ItemsStand (g : Graph) (ids : List NodeId) : List Document → Prop
  | [] => ids = []
  | item :: rest => ∃ id others, ids = id :: others ∧ StandsFor g id item ∧ ItemsStand g others rest

def EntriesStand (g : Graph) (ids : NodeEntries) : List (Text × Document) → Prop
  | [] => ids = []
  | (key, item) :: rest => ∃ id others, ids = id :: others ∧ g.node id.1 = ⟨.text, .scalar key⟩ ∧
      StandsFor g id.2 item ∧ EntriesStand g others rest

end

mutual

/-- The document is where it was, when the nodes of the graph from a number on are. -/
theorem StandsFor.congr {g g' : Graph} {low id : NodeId} {document : Document}
    (agree : ∀ j, low ≤ j → j < g.size → g'.node j = g.node j) (above : low ≤ id)
    (h : StandsFor g id document) : StandsFor g' id document := by
  have same {node : Node} (shown : g.node id = node) (nonEmpty : node ≠ .empty) : g'.node id = node := by
    rw [agree id above (Graph.lt_size_of_node (shown ▸ nonEmpty)), shown]
  match document with
  | .text t => exact same h (by simp [Node.empty])
  | .int n => exact same h (by simp [Node.empty])
  | .list items =>
    obtain ⟨ids, shown, later, inside⟩ := h
    refine ⟨ids, same shown (by simp [Node.empty]), later, ItemsStand.congr agree ?_ inside⟩
    exact fun i hi => Nat.le_trans above (Nat.le_of_lt (later i hi))
  | .map entries =>
    obtain ⟨ids, shown, later, inside⟩ := h
    refine ⟨ids, same shown (by simp [Node.empty]), later, EntriesStand.congr agree ?_ inside⟩
    exact fun i hi => ⟨Nat.le_trans above (Nat.le_of_lt (later i hi).1),
      Nat.le_trans above (Nat.le_of_lt (later i hi).2)⟩

theorem ItemsStand.congr {g g' : Graph} {low : NodeId} {ids : List NodeId} {items : List Document}
    (agree : ∀ j, low ≤ j → j < g.size → g'.node j = g.node j) (above : ∀ i ∈ ids, low ≤ i)
    (h : ItemsStand g ids items) : ItemsStand g' ids items := by
  match items with
  | [] => exact h
  | item :: rest =>
    obtain ⟨id, others, rfl, shown, inside⟩ := h
    obtain ⟨first, rest⟩ := List.forall_mem_cons.1 above
    exact ⟨id, others, rfl, StandsFor.congr agree first shown, ItemsStand.congr agree rest inside⟩

theorem EntriesStand.congr {g g' : Graph} {low : NodeId} {ids : NodeEntries}
    {entries : List (Text × Document)} (agree : ∀ j, low ≤ j → j < g.size → g'.node j = g.node j)
    (above : ∀ i ∈ ids, low ≤ i.1 ∧ low ≤ i.2) (h : EntriesStand g ids entries) :
    EntriesStand g' ids entries := by
  match entries with
  | [] => exact h
  | (key, item) :: rest =>
    obtain ⟨id, others, rfl, key, shown, inside⟩ := h
    obtain ⟨first, rest⟩ := List.forall_mem_cons.1 above
    have inGraph : id.1 < g.size := Graph.lt_size_of_node (by rw [key]; simp [Node.empty])
    exact ⟨id, others, rfl, (agree id.1 first.1 inGraph).trans key, StandsFor.congr agree first.2 shown,
      EntriesStand.congr agree rest inside⟩

end

section
variable {g g' : Graph}

/-- A graph that grows stands for the same. -/
theorem StandsFor.mono {id : NodeId} {document : Document} (h : StandsFor g id document)
    (grows : g.Extends g') : StandsFor g' id document :=
  h.congr (fun j _ => grows.node j) (Nat.zero_le id)

theorem StandsFor.tag {id : NodeId} {document : Document} (h : StandsFor g id document) :
    (g.node id).tag = document.nodeTag := by
  match document with
  | .text t => rw [show g.node id = _ from h]; rfl
  | .int n => rw [show g.node id = _ from h]; rfl
  | .list items => rw [h.choose_spec.1]; rfl
  | .map entries => rw [h.choose_spec.1]; rfl

theorem StandsFor.lt_size {id : NodeId} {document : Document} (h : StandsFor g id document) :
    id < g.size := by
  refine Graph.lt_size_of_node fun empty => ?_
  have tag := h.tag
  rw [empty] at tag
  cases document <;> cases tag

theorem itemsStand_iff {ids : List NodeId} {items : List Document} :
    ItemsStand g ids items ↔ List.Forall₂ (StandsFor g) ids items := by
  induction items generalizing ids with
  | nil => rw [ItemsStand, List.forall₂_nil_right_iff]
  | cons item rest ih =>
    rw [ItemsStand, List.forall₂_cons_right_iff]
    constructor
    · rintro ⟨id, others, rfl, stands, inside⟩
      exact ⟨id, others, stands, ih.1 inside, rfl⟩
    · rintro ⟨id, others, stands, inside, rfl⟩
      exact ⟨id, others, rfl, stands, ih.2 inside⟩

theorem entriesStand_iff {ids : NodeEntries} {entries : List (Text × Document)} :
    EntriesStand g ids entries ↔ List.Forall₂ (fun id entry =>
      g.node id.1 = ⟨.text, .scalar entry.1⟩ ∧ StandsFor g id.2 entry.2) ids entries := by
  induction entries generalizing ids with
  | nil => rw [EntriesStand, List.forall₂_nil_right_iff]
  | cons entry rest ih =>
    rw [EntriesStand, List.forall₂_cons_right_iff]
    constructor
    · rintro ⟨id, others, rfl, key, stands, inside⟩
      exact ⟨id, others, ⟨key, stands⟩, ih.1 inside, rfl⟩
    · rintro ⟨id, others, ⟨key, stands⟩, inside, rfl⟩
      exact ⟨id, others, rfl, key, stands, ih.2 inside⟩

end

end FixedExtract.Yaml
