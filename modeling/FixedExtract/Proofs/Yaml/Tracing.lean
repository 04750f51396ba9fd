import FixedExtract.Proofs.Yaml.Graph
import FixedExtract.Proofs.Yaml.LexicalFaults
import FixedExtract.Yaml.Node
import FixedExtract.Yaml.Filling
/-!
# Where scalars come from

The scalars of a document are those of its tokens, and the nulls that stand where nothing is written. A scalar without a
tag of its own has the tag that its spelling gives it.
-/

namespace FixedExtract.Yaml

/-! ## Scalars and tokens -/

section
variable (ts : List Token)

/-- The text of a scalar that stands among the tokens, or of one that is not written. -/
def Written (text : Text) : Prop := text = [] ∨ ∃ plain, Token.scalar text plain ∈ ts

/-- Some node has a tag of its own. -/
def HasTags : Prop := ∃ handle suffix, Token.tag handle suffix ∈ ts

/-- The tag is one that a node with the text may have. -/
inductive Tagged : Text → Tag → Prop
  | text (text : Text) : Tagged text .text
  | empty : Tagged [] .null
  | plain {text : Text} (token : Token.scalar text true ∈ ts) : Tagged text (plainTag text)
  | explicit {text : Text} (written : Written ts text) (tags : HasTags ts) (tag : Tag) : Tagged text tag

/-- A node with the tag may have contents. -/
def MayCollect (tag : Tag) : Prop := tag.isCollection = true ∨ tag = .text ∨ HasTags ts

/-- The node comes from the tokens. -/
def Node.From (node : Node) : Prop :=
  match node.content with
  | .scalar text => Written ts text ∧ Tagged ts text node.tag
  | _ => MayCollect ts node.tag

/-- All nodes come from the tokens. -/
def Graph.From (g : Graph) : Prop := ∀ node ∈ g.nodes, node.From ts

end

variable {ts : List Token} {g : Graph} {id : NodeId} {node : Node}

theorem Node.from_empty : Node.empty.From ts := ⟨.inl rfl, .empty⟩

theorem MayCollect.from {tag : Tag} {content : Content} (may : MayCollect ts tag)
    (collection : ∀ text, content ≠ .scalar text) : (⟨tag, content⟩ : Node).From ts := by
  cases content with
  | scalar text => exact absurd rfl (collection text)
  | sequence items => exact may
  | mapping entries => exact may

namespace Graph

theorem From.empty : Graph.empty.From ts := by
  intro node member
  cases member
  contradiction

theorem From.at (h : g.From ts) (id : NodeId) : (g.node id).From ts := by
  rw [node_eq]
  cases found : g.nodes[id]? with
  | none => exact Node.from_empty
  | some node => exact h node (Array.mem_of_getElem? found)

theorem From.push (h : g.From ts) (new : node.From ts) : (g.push node).From ts := by
  intro other member
  rcases Array.mem_push.1 member with old | rfl
  · exact h other old
  · exact new

theorem From.set (h : g.From ts) (new : node.From ts) : (g.set id node).From ts := by
  intro other member
  rcases Array.mem_or_eq_of_mem_setIfInBounds member with old | rfl
  · exact h other old
  · exact new

/-- A collection gets its contents. -/
theorem From.setContent (h : g.From ts) {content : Content} (may : MayCollect ts (g.node id).tag)
    (collection : ∀ text, content ≠ .scalar text) : (g.setContent id content).From ts :=
  h.set (may.from collection)

/-- The text that stands for a node, its own or one in it, is that of a scalar. -/
theorem From.written (h : g.From ts) {fuel : Nat} {text : Text} (found : g.scalarText? fuel id = some text) :
    Written ts text := by
  induction fuel generalizing id with
  | zero => cases found
  | succ fuel ih =>
    have own := h.at id
    rw [scalarText?] at found
    split at found
    · next content =>
      cases found
      rw [Node.From, content] at own
      exact own.1
    · cases found
    · split at found
      · exact ih found
      · cases found

theorem From.tagged (h : g.From ts) {fuel : Nat} {text : Text} (found : g.scalarText? fuel id = some text)
    (single : (g.node id).tag.isCollection = false) : Tagged ts text (g.node id).tag := by
  have own := h.at id
  have may (collects : MayCollect ts (g.node id).tag) : Tagged ts text (g.node id).tag := by
    rcases collects with collection | isText | tags
    · rw [single] at collection
      cases collection
    · rw [isText]
      exact .text text
    · exact .explicit (h.written found) tags _
  cases content : (g.node id).content with
  | scalar own' =>
    rw [Node.From, content] at own
    cases fuel with
    | zero => cases found
    | succ fuel =>
      rw [scalarText?, content] at found
      cases found
      exact own.2
  | sequence items =>
    rw [Node.From, content] at own
    exact may own
  | mapping entries =>
    rw [Node.From, content] at own
    exact may own

end Graph

/-! ## Reading nodes -/

/-- What has been read comes from the tokens, and the nodes that are held may have contents. -/
structure Reading.From (ts : List Token) (held : List NodeId) (s : Reading) : Prop where
  tokens : s.tokens ⊆ ts
  fault : ∀ fault, s.fault = some fault → LexicalFault fault
  graph : s.graph.From ts
  held : ∀ id ∈ held, id < s.graph.size ∧ MayCollect ts (s.graph.node id).tag

/-- A part of the reader, whose results are as described. -/
abbrev Traces (ts : List Token) (held : List NodeId) {α : Type} (m : Read α) (Q : α → Prop) : Prop :=
  Triple LexicalFault (Reading.From ts held) m fun a s => s.From ts held ∧ Q a

section
variable {α β : Type} {held : List NodeId} {m : Read α} {f : α → Read β} {Q : α → Prop} {R : β → Prop}

namespace Traces

theorem pure {a : α} (h : Q a) : Traces ts held (Pure.pure a) Q := Triple.pure fun _ hs => ⟨hs, h⟩

theorem malformed : Traces ts held (throw .malformed : Read α) Q := Triple.throw .malformed

theorem bind (first : Traces ts held m Q) (next : ∀ a, Q a → Traces ts held (f a) R) : Traces ts held (m >>= f) R :=
  Triple.bind first fun a s hs => next a hs.2 s hs.1

theorem ite {c : Prop} [Decidable c] {other : Read α} (yes : Traces ts held m Q) (no : Traces ts held other Q) :
    Traces ts held (if c then m else other) Q :=
  Triple.ite yes no

theorem get_bind {f : Reading → Read β} (next : ∀ s, s.From ts held → Traces ts held (f s) R) :
    Traces ts held (get >>= f) R :=
  Triple.get_bind fun s hs => (next s hs).mono (fun _ same => same ▸ hs) fun _ _ h => h

theorem modify {g : Reading → Reading} (h : ∀ s, s.From ts held → (g s).From ts held) :
    Traces ts held (modify g) fun _ => True :=
  Triple.modifyGet fun s hs => ⟨h s hs, trivial⟩

end Traces

theorem traces_peekToken : Traces ts held peekToken (· ∈ ts) := by
  refine .get_bind fun s hs => ?_
  split
  · next same =>
    refine .pure (hs.tokens ?_)
    rw [same]
    exact List.mem_cons_self
  · next fault _ same => exact Triple.throw (hs.fault fault same)
  · exact .malformed

theorem traces_dropToken : Traces ts held dropToken fun _ => True :=
  .modify fun _ hs => { hs with tokens := List.Subset.trans (List.drop_subset 1 _) hs.tokens }

theorem traces_expect (token : Token) : Traces ts held (expect token) fun _ => True :=
  .bind traces_peekToken fun _ _ => .ite traces_dropToken .malformed

theorem traces_nextIs (tokens : List Token) : Traces ts held (nextIs tokens) fun _ => True :=
  .bind traces_peekToken fun _ _ => .pure trivial

/-! ### New nodes -/

theorem Reading.From.push {s : Reading} (h : s.From ts held) (new : node.From ts) (anchors : List (Text × NodeId)) :
    Reading.From ts held { s with graph := s.graph.push node, anchors := anchors } where
  tokens := h.tokens
  fault := h.fault
  graph := h.graph.push new
  held id member := by
    obtain ⟨inside, may⟩ := h.held id member
    rw [Graph.size_push, Graph.node_push_of_lt inside]
    exact ⟨Nat.lt_succ_of_lt inside, may⟩

theorem traces_newNode (anchor : Option Text) (new : node.From ts) :
    Traces ts held (newNode anchor node) fun _ => True :=
  Triple.modifyGet fun _ hs => ⟨hs.push new _, trivial⟩

/-- A node that may have contents is held until it has them. -/
theorem triple_newNode (anchor : Option Text) (new : node.From ts) (may : MayCollect ts node.tag) :
    Triple LexicalFault (Reading.From ts held) (newNode anchor node) fun id s => s.From ts (id :: held) := by
  refine Triple.modifyGet fun s hs => ?_
  have kept := hs.push new ((anchor.toList.map fun name => (name, s.graph.size)) ++ s.anchors)
  refine { kept with held := List.forall_mem_cons.2 ⟨?_, kept.held⟩ }
  rw [Graph.size_push, Graph.node_push_self]
  exact ⟨Nat.lt_succ_self _, may⟩

theorem traces_newEmptyNode : Traces ts held newEmptyNode fun _ => True := traces_newNode none Node.from_empty

/-- The collection that is held gets its contents. -/
theorem Reading.From.setContent {s : Reading} {content : Content} (h : s.From ts (id :: held))
    (collection : ∀ text, content ≠ .scalar text) :
    Reading.From ts held { s with graph := s.graph.setContent id content } where
  tokens := h.tokens
  fault := h.fault
  graph := h.graph.setContent (h.held id List.mem_cons_self).2 collection
  held other member := by
    obtain ⟨inside, may⟩ := h.held other (List.mem_cons_of_mem id member)
    refine ⟨by rwa [Graph.setContent, Graph.size_set], ?_⟩
    by_cases same : other = id
    · subst same
      rw [Graph.setContent, Graph.node_set_self inside]
      exact may
    · rw [Graph.setContent, Graph.node_set_of_ne same]
      exact may

/-! ### Names and tags -/

theorem traces_checkName (anchor : Option Text) : Traces ts held (checkName anchor) fun _ => True := by
  unfold checkName
  split
  · exact .pure trivial
  · exact .get_bind fun _ _ => .ite .malformed (.pure trivial)

theorem traces_aliasNode (name : Text) : Traces ts held (aliasNode name) fun _ => True := by
  refine .get_bind fun s _ => ?_
  split
  · exact .malformed
  · exact .pure trivial

theorem traces_tagOf (handle : Option Text) (suffix : Text) : Traces ts held (tagOf handle suffix) fun _ => True := by
  unfold tagOf
  split
  · exact .pure trivial
  · refine .get_bind fun s _ => ?_
    split
    · exact .malformed
    · exact .pure trivial

theorem traces_readAnchorToken : Traces ts held readAnchorToken fun _ => True := by
  refine .bind traces_peekToken fun token _ => ?_
  split
  · exact .bind traces_dropToken fun _ _ => .pure trivial
  · exact .pure trivial

/-- A tag is read from a token. -/
theorem traces_readTagToken : Traces ts held readTagToken fun found => found = (false, none) ∨ HasTags ts := by
  refine .bind traces_peekToken fun token member => ?_
  split
  · next handle suffix =>
    exact .bind traces_dropToken fun _ _ => .bind (traces_tagOf _ _) fun _ _ => .pure (.inr ⟨handle, suffix, member⟩)
  · exact .pure (.inl rfl)

theorem traces_readProperties :
    Traces ts held readProperties fun p => p.tagged = false ∧ p.tag = none ∨ HasTags ts := by
  have untagged {found : Bool × Option Tag} (h : found = (false, none) ∨ HasTags ts) :
      found.1 = false ∧ found.2 = none ∨ HasTags ts :=
    h.imp_left Prod.mk.inj
  refine .bind traces_readAnchorToken fun anchor _ => ?_
  split
  · exact .bind traces_readTagToken fun found h => .pure (untagged h)
  · refine .bind traces_readTagToken fun found h => ?_
    obtain ⟨tagged, tag⟩ := found
    exact .ite (.bind traces_readAnchorToken fun _ _ => .pure (untagged h)) (.pure (untagged h))

/-! ### Nodes and their contents -/

/-- The tag of a scalar is one that its text may have. -/
theorem tagged_scalarTag {p : Properties} (h : p.tagged = false ∧ p.tag = none ∨ HasTags ts) {text : Text}
    {plain : Bool}    (token : Token.scalar text plain ∈ ts) : Tagged ts text (p.scalarTag text plain) := by
  rcases h with ⟨untagged, noTag⟩ | tags
  · rw [Properties.scalarTag, noTag, untagged, Bool.or_false]
    cases plain with
    | true => exact .plain token
    | false => exact .text text
  · exact .explicit (.inr ⟨plain, token⟩) tags _

/-- The tag of a collection is its own, or that of its form. -/
theorem mayCollect_form {p : Properties} (h : p.tagged = false ∧ p.tag = none ∨ HasTags ts) (form : Form) :
    MayCollect ts (p.tag.getD form.tag) := by
  rcases h with ⟨-, noTag⟩ | tags
  · rw [noTag]
    cases form <;> exact .inl rfl
  · exact .inr (.inr tags)

/-- All readers of nodes and of their contents trace what they read, with the fuel that they have. -/
structure NodesTraced (ts : List Token) (fuel : Nat) : Prop where
  node : ∀ held position, Traces ts held (readNode fuel position) fun _ => True
  content : ∀ held form, Traces ts held (readContent fuel form) fun content => ∀ text, content ≠ .scalar text
  nodeOrEmpty : ∀ held position ends, Traces ts held (readNodeOrEmpty fuel position ends) fun _ => True
  blockItems : ∀ held, Traces ts held (readBlockItems fuel) fun _ => True
  flatItems : ∀ held, Traces ts held (readFlatItems fuel) fun _ => True
  blockEntries : ∀ held, Traces ts held (readBlockEntries fuel) fun _ => True
  valueAfter : ∀ held position ends, Traces ts held (readValueAfter fuel position ends) fun _ => True
  flowItems : ∀ held first, Traces ts held (readFlowItems fuel first) fun _ => True
  flowEntries : ∀ held first, Traces ts held (readFlowEntries fuel first) fun _ => True

namespace NodesTraced

variable {fuel : Nat}

theorem zero : NodesTraced ts 0 where
  node _ _ := .malformed
  content _ _ := .malformed
  nodeOrEmpty _ _ _ := .malformed
  blockItems _ := .malformed
  flatItems _ := .malformed
  blockEntries _ := .malformed
  valueAfter _ _ _ := .malformed
  flowItems _ _ := .malformed
  flowEntries _ _ := .malformed

variable (h : NodesTraced ts fuel) (held : List NodeId)
include h

theorem succ_node (position : Position) : Traces ts held (readNode (fuel + 1) position) fun _ => True := by
  unfold readNode
  refine .bind traces_peekToken fun first _ => ?_
  split
  · exact .bind traces_dropToken fun _ _ => traces_aliasNode _
  · refine .bind traces_readProperties fun p tags => .bind (traces_checkName _) fun _ _ =>
      .bind traces_peekToken fun token member => ?_
    split
    · -- A scalar has the text of its token.
      exact .bind traces_dropToken fun _ _ => traces_newNode _ ⟨.inr ⟨_, member⟩, tagged_scalarTag tags member⟩
    · -- A collection is held while its contents are read.
      next form _ _ =>
      have may := mayCollect_form tags form
      have new : Node.From ts ⟨p.tag.getD form.tag, .sequence []⟩ := may.from nofun
      refine Triple.bind (triple_newNode _ new may) fun id => ?_
      refine Triple.bind (h.content (id :: held) form) fun content => ?_
      refine Triple.bind (Triple.modify fun s hs => hs.1.setContent hs.2) fun _ => Triple.pure fun _ hs => ⟨hs, trivial⟩
    · -- Nothing is written but a name or a tag.
      refine .ite .malformed (traces_newNode _ ⟨.inl rfl, ?_⟩)
      rcases tags with ⟨-, noTag⟩ | tags
      · rw [noTag]
        exact .empty
      · exact .explicit (.inl rfl) tags _

theorem succ_content (form : Form) :
    Traces ts held (readContent (fuel + 1) form) fun content => ∀ text, content ≠ .scalar text := by
  cases form with
  | blockSequence => exact .bind traces_dropToken fun _ _ => .bind (h.blockItems held) fun _ _ => .pure nofun
  | flatSequence => exact .bind (h.flatItems held) fun _ _ => .pure nofun
  | blockMapping => exact .bind traces_dropToken fun _ _ => .bind (h.blockEntries held) fun _ _ => .pure nofun
  | flowSequence => exact .bind traces_dropToken fun _ _ => .bind (h.flowItems held true) fun _ _ => .pure nofun
  | flowMapping => exact .bind traces_dropToken fun _ _ => .bind (h.flowEntries held true) fun _ _ => .pure nofun

theorem succ_blockItems : Traces ts held (readBlockItems (fuel + 1)) fun _ => True := by
  refine .bind (traces_nextIs _) fun _ _ => .ite ?_ (.bind (traces_expect _) fun _ _ => .pure trivial)
  exact .bind traces_dropToken fun _ _ => .bind (h.nodeOrEmpty held _ _) fun _ _ =>
    .bind (h.blockItems held) fun _ _ => .pure trivial

theorem succ_flatItems : Traces ts held (readFlatItems (fuel + 1)) fun _ => True := by
  refine .bind (traces_nextIs _) fun _ _ => .ite ?_ (.pure trivial)
  exact .bind traces_dropToken fun _ _ => .bind (h.nodeOrEmpty held _ _) fun _ _ =>
    .bind (h.flatItems held) fun _ _ => .pure trivial

theorem succ_blockEntries : Traces ts held (readBlockEntries (fuel + 1)) fun _ => True := by
  refine .bind (traces_nextIs _) fun _ _ => .ite ?_ (.bind (traces_expect _) fun _ _ => .pure trivial)
  exact .bind traces_dropToken fun _ _ => .bind (h.nodeOrEmpty held _ _) fun _ _ =>
    .bind (h.valueAfter held _ _) fun _ _ => .bind (h.blockEntries held) fun _ _ => .pure trivial

theorem succ_flowItems (first : Bool) : Traces ts held (readFlowItems (fuel + 1) first) fun _ => True := by
  have close : Traces ts held (do dropToken; return []) fun _ : List NodeId => True :=
    .bind traces_dropToken fun _ _ => .pure trivial
  refine .bind (traces_nextIs _) fun _ _ => .ite close (.ite (.bind (traces_expect _) fun _ _ => ?_) ?_)
  -- An item is read in the same way with a comma in front of it and without.
  all_goals
    refine .bind (traces_nextIs _) fun _ _ => .ite ?_ (.bind (traces_nextIs _) fun _ _ => .ite close ?_)
    · exact .bind traces_dropToken fun _ _ => .bind (h.nodeOrEmpty held _ _) fun _ _ =>
        .bind (h.valueAfter held _ _) fun _ _ => .bind (traces_newNode none (.inl rfl)) fun _ _ =>
          .bind (h.flowItems held false) fun _ _ => .pure trivial
    · exact .bind (h.node held _) fun _ _ => .bind (h.flowItems held false) fun _ _ => .pure trivial

theorem succ_flowEntries (first : Bool) : Traces ts held (readFlowEntries (fuel + 1) first) fun _ => True := by
  have close : Traces ts held (do dropToken; return []) fun _ : NodeEntries => True :=
    .bind traces_dropToken fun _ _ => .pure trivial
  refine .bind (traces_nextIs _) fun _ _ => .ite close (.ite (.bind (traces_expect _) fun _ _ => ?_) ?_)
  all_goals
    refine .bind (traces_nextIs _) fun _ _ => .ite ?_ (.bind (traces_nextIs _) fun _ _ => .ite close ?_)
    · exact .bind traces_dropToken fun _ _ => .bind (h.nodeOrEmpty held _ _) fun _ _ =>
        .bind (h.valueAfter held _ _) fun _ _ => .bind (h.flowEntries held false) fun _ _ => .pure trivial
    · exact .bind (h.node held _) fun _ _ => .bind traces_newEmptyNode fun _ _ =>
        .bind (h.flowEntries held false) fun _ _ => .pure trivial

theorem succ : NodesTraced ts (fuel + 1) where
  node := h.succ_node
  content := h.succ_content
  nodeOrEmpty held position ends :=
    .bind (traces_nextIs ends) fun _ _ => .ite traces_newEmptyNode (h.node held position)
  blockItems := h.succ_blockItems
  flatItems := h.succ_flatItems
  blockEntries := h.succ_blockEntries
  valueAfter held position ends := .bind (traces_nextIs _) fun _ _ =>
    .ite (.bind traces_dropToken fun _ _ => h.nodeOrEmpty held position ends) traces_newEmptyNode
  flowItems := h.succ_flowItems
  flowEntries := h.succ_flowEntries

end NodesTraced

theorem nodesTraced (ts : List Token) (fuel : Nat) : NodesTraced ts fuel := by
  induction fuel with
  | zero => exact .zero
  | succ fuel ih => exact ih.succ

/-! ### Documents -/

theorem traces_readDirectives (version : Bool) (handles : List (Text × Text)) (fuel : Nat) :
    Traces ts held (readDirectives version handles fuel) fun _ => True := by
  induction fuel generalizing version handles with
  | zero => exact .malformed
  | succ fuel ih =>
    refine .bind traces_peekToken fun token _ => ?_
    split
    · exact .bind traces_dropToken fun _ _ => .ite .malformed (ih _ _)
    · exact .bind traces_dropToken fun _ _ => .ite .malformed (ih _ _)
    · exact .bind traces_dropToken fun _ _ => ih _ _
    · exact .pure trivial

theorem traces_dropDocumentEnds (fuel : Nat) : Traces ts held (dropDocumentEnds fuel) fun _ => True := by
  induction fuel with
  | zero => exact .malformed
  | succ fuel ih =>
    exact .bind (traces_nextIs _) fun _ _ => .ite (.bind traces_dropToken fun _ _ => ih) (.pure trivial)

theorem traces_readFuel : Traces ts held readFuel fun _ => True := .get_bind fun _ _ => .pure trivial

theorem traces_nextIsDirective : Traces ts held nextIsDirective fun _ => True := by
  refine .bind traces_peekToken fun token _ => ?_
  split
  · exact .pure trivial
  · exact .pure trivial

/-- The handles of tags do not matter for where nodes come from. -/
theorem traces_setHandles (handles : List (Text × Text)) :
    Traces ts held (modify fun s => { s with handles := handles }) fun _ => True :=
  .modify fun _ hs => { hs with }

theorem traces_readStart (first : Bool) : Traces ts held (readStart first) fun _ => True := by
  refine .bind traces_nextIsDirective fun _ _ => .bind (traces_nextIs _) fun _ _ => .ite ?_ ?_
  · exact .bind (traces_setHandles _) fun _ _ => .pure trivial
  · refine .bind traces_readFuel fun _ _ => .bind (traces_dropDocumentEnds _) fun _ _ =>
      .bind (traces_nextIs _) fun _ _ =>
      .ite (.pure trivial) (.bind traces_readFuel fun _ _ => .bind (traces_readDirectives _ _ _) fun _ _ => ?_)
    exact .bind (traces_setHandles _) fun _ _ => .bind (traces_expect _) fun _ _ => .pure trivial

/-- A document starts without nodes. -/
theorem triple_readRoot (start : Start) :
    Triple LexicalFault (Reading.From ts held) (readRoot start) fun _ s => s.From ts [] := by
  have finish (root : NodeId) : Traces ts [] (do
      if ← nextIs [.documentEnd] then dropToken
      return root) fun _ => True :=
    .bind (traces_nextIs _) fun _ _ => .ite (.bind traces_dropToken fun _ _ => .pure trivial) (.pure trivial)
  have content (isEmpty : Bool) : Traces ts [] (do
      let root ← if isEmpty then newEmptyNode else readNode (← readFuel) .block
      if ← nextIs [.documentEnd] then dropToken
      return root) fun _ => True :=
    .ite (.bind traces_newEmptyNode fun _ _ => finish _)
      (.bind traces_readFuel fun _ _ => .bind ((nodesTraced ts _).node [] .block) fun _ _ => finish _)
  refine Triple.bind (J := fun _ s => s.From ts []) (Triple.modify fun s hs => ?_) fun _ => ?_
  · exact { hs with graph := .empty, held := List.forall_mem_nil _ }
  · refine Triple.mono (I := Reading.From ts []) (J := fun _ s => s.From ts [] ∧ True) ?_ (fun _ h => h)
      fun _ _ h => h.1
    cases start with
    | bare => exact content false
    | marked => exact Traces.bind (traces_nextIs _) fun _ _ => Traces.bind traces_nextIsDirective fun _ _ => content _

end

end FixedExtract.Yaml
