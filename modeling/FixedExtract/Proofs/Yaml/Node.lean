import FixedExtract.Proofs.Yaml.Graph
import FixedExtract.Proofs.Yaml.Written
import FixedExtract.Yaml.Node
/-!
# Nodes of written documents

The tokens of a document are read to nodes that stand for the document. A node is added before what is in
it, so nodes that were added before stay as they are.
-/

namespace FixedExtract.Yaml

variable {s : Reading} {token : Token} {rest more : List Token} {node : Node} {fuel : Nat}

/-! ## Single steps -/

theorem peekToken_run (h : s.tokens = token :: rest) : peekToken.run s = .ok (token, s) := by
  cases s
  cases h
  rfl

theorem dropToken_run (s : Reading) : dropToken.run s = .ok ((), { s with tokens := s.tokens.drop 1 }) := rfl

theorem nextIs_run (h : s.tokens = token :: rest) (tokens : List Token) :
    (nextIs tokens).run s = .ok (tokens.elem token, s) := by
  rw [nextIs, StateT.run_bind, peekToken_run h]
  rfl

theorem newNode_run (s : Reading) (node : Node) :
    (newNode none node).run s = .ok (s.graph.size, { s with graph := s.graph.push node }) := rfl

/-- Nothing is written in front of a node. -/
theorem readProperties_run (h : s.tokens = token :: rest) (noAnchor : ∀ name, token ≠ .anchor name)
    (noTag : ∀ handle suffix, token ≠ .tag handle suffix) :
    readProperties.run s = .ok (⟨none, false, none⟩, s) := by
  have anchor : readAnchorToken.run s = .ok (none, s) := by
    rw [readAnchorToken, StateT.run_bind, peekToken_run h]
    cases token <;> first | rfl | exact absurd rfl (noAnchor _)
  have tag : readTagToken.run s = .ok ((false, none), s) := by
    rw [readTagToken, StateT.run_bind, peekToken_run h]
    cases token <;> first | rfl | exact absurd rfl (noTag _ _)
  rw [readProperties, StateT.run_bind, anchor]
  show (readTagToken.run s >>= _) = _
  rw [tag]
  rfl

/-- A scalar is read as a node of its own. -/
theorem readNode_scalar {text : Text} {plain : Bool} (h : s.tokens = .scalar text plain :: rest)
    (position : Position) : (readNode (fuel + 1) position).run s =
      .ok (s.graph.size, { s with
        tokens := rest
        graph := s.graph.push ⟨if plain then plainTag text else .text, .scalar text⟩ }) := by
  cases s
  cases h
  rw [readNode]
  cases plain <;> rfl

/-- A collection is read as a node that what is in it comes behind. -/
theorem readNode_collection {position : Position} {form : Form} {content : Content} {s' : Reading}
    (h : s.tokens = token :: rest) (starts : position.form? token = some form)
    (inside : (readContent fuel form).run { s with graph := s.graph.push ⟨form.tag, .sequence []⟩ } =
      .ok (content, s')) :
    (readNode (fuel + 1) position).run s =
      .ok (s.graph.size, { s' with graph := s'.graph.setContent s.graph.size content }) := by
  have kinds : token = .flowSequenceStart ∨ token = .flowMappingStart ∨ token = .blockSequenceStart ∨
      token = .blockMappingStart ∨ token = .blockEntry := by
    cases token <;> first | (simp; done) | cases starts
  rcases kinds with rfl | rfl | rfl | rfl | rfl <;>
  · have properties := readProperties_run h (by simp) (by simp)
    simp only [readNode, StateT.run_bind, StateT.run_pure, pure_bind, ok_bind, properties, checkName,
      peekToken_run h, starts, newNode_run, Option.getD_none, inside]
    rfl

/-- A node is read where none of the ends comes. -/
theorem readNodeOrEmpty_run (h : s.tokens = token :: rest) {ends : List Token}
    (apart : ends.elem token = false) (position : Position) :
    (readNodeOrEmpty (fuel + 1) position ends).run s = (readNode fuel position).run s := by
  rw [readNodeOrEmpty, StateT.run_bind, nextIs_run h, ok_bind]
  simp only [apart, Bool.false_eq_true, if_false]

theorem readBlockItems_entry (h : s.tokens = .blockEntry :: rest) :
    (readBlockItems (fuel + 1)).run s = (do
      let item ← readNodeOrEmpty fuel .block [.blockEntry, .blockEnd]
      return item :: (← readBlockItems fuel) : Read (List NodeId)).run { s with tokens := rest } := by
  rw [readBlockItems, StateT.run_bind, nextIs_run h, ok_bind]
  simp only [List.elem_cons_self, if_true, StateT.run_bind, dropToken_run, ok_bind, h, List.drop_one,
    List.tail_cons]

theorem readBlockItems_end (h : s.tokens = .blockEnd :: rest) :
    (readBlockItems (fuel + 1)).run s = .ok ([], { s with tokens := rest }) := by
  have other : [Token.blockEntry].elem .blockEnd = false := rfl
  rw [readBlockItems, StateT.run_bind, nextIs_run h, ok_bind]
  simp only [other, Bool.false_eq_true, if_false, expect, StateT.run_bind, peekToken_run h, ok_bind, if_true,
    dropToken_run, h, List.drop_one, List.tail_cons]
  rfl

theorem readFlatItems_entry (h : s.tokens = .blockEntry :: rest) :
    (readFlatItems (fuel + 1)).run s = (do
      let item ← readNodeOrEmpty fuel .block [.blockEntry, .key, .value, .blockEnd]
      return item :: (← readFlatItems fuel) : Read (List NodeId)).run { s with tokens := rest } := by
  rw [readFlatItems, StateT.run_bind, nextIs_run h, ok_bind]
  simp only [List.elem_cons_self, if_true, StateT.run_bind, dropToken_run, ok_bind, h, List.drop_one,
    List.tail_cons]

theorem readFlatItems_end (h : s.tokens = token :: rest) (other : token ≠ .blockEntry) :
    (readFlatItems (fuel + 1)).run s = .ok ([], s) := by
  have other : [Token.blockEntry].elem token = false := by simpa using other
  rw [readFlatItems, StateT.run_bind, nextIs_run h, ok_bind]
  simp only [other, Bool.false_eq_true, if_false]
  rfl

theorem readBlockEntries_key (h : s.tokens = .key :: rest) :
    (readBlockEntries (fuel + 1)).run s = (do
      let key ← readNodeOrEmpty fuel .blockValue [.key, .value, .blockEnd]
      let value ← readValueAfter fuel .blockValue [.key, .value, .blockEnd]
      return (key, value) :: (← readBlockEntries fuel) : Read NodeEntries).run { s with tokens := rest } := by
  rw [readBlockEntries, StateT.run_bind, nextIs_run h, ok_bind]
  simp only [List.elem_cons_self, if_true, StateT.run_bind, dropToken_run, ok_bind, h, List.drop_one,
    List.tail_cons]

theorem readBlockEntries_end (h : s.tokens = .blockEnd :: rest) :
    (readBlockEntries (fuel + 1)).run s = .ok ([], { s with tokens := rest }) := by
  have other : [Token.key].elem .blockEnd = false := rfl
  rw [readBlockEntries, StateT.run_bind, nextIs_run h, ok_bind]
  simp only [other, Bool.false_eq_true, if_false, expect, StateT.run_bind, peekToken_run h, ok_bind, if_true,
    dropToken_run, h, List.drop_one, List.tail_cons]
  rfl

theorem readValueAfter_value (h : s.tokens = .value :: rest) (position : Position) (ends : List Token) :
    (readValueAfter (fuel + 1) position ends).run s =
      (readNodeOrEmpty fuel position ends).run { s with tokens := rest } := by
  rw [readValueAfter, StateT.run_bind, nextIs_run h, ok_bind]
  simp only [List.elem_cons_self, if_true, StateT.run_bind, dropToken_run, ok_bind, h, List.drop_one,
    List.tail_cons]

theorem readContent_mapping (h : s.tokens = token :: rest) :
    (readContent (fuel + 1) .blockMapping).run s = (do
      return .mapping (← readBlockEntries fuel) : Read Content).run { s with tokens := rest } := by
  rw [readContent, StateT.run_bind, dropToken_run, ok_bind, h]
  rfl

theorem readContent_sequence (h : s.tokens = token :: rest) :
    (readContent (fuel + 1) .blockSequence).run s = (do
      return .sequence (← readBlockItems fuel) : Read Content).run { s with tokens := rest } := by
  rw [readContent, StateT.run_bind, dropToken_run, ok_bind, h]
  rfl

theorem readContent_emptySequence (h : s.tokens = token :: .flowSequenceEnd :: rest) :
    (readContent (fuel + 2) .flowSequence).run s = .ok (.sequence [], { s with tokens := rest }) := by
  cases s
  cases h
  rw [readContent, readFlowItems]
  rfl

theorem readContent_emptyMapping (h : s.tokens = token :: .flowMappingEnd :: rest) :
    (readContent (fuel + 2) .flowMapping).run s = .ok (.mapping [], { s with tokens := rest }) := by
  cases s
  cases h
  rw [readContent, readFlowEntries]
  rfl

/-! ## What is read -/

/-- Reading ends in front of the tokens `more`, adds nodes to the graph, and gives a result that fulfils
`P`. -/
def Reads {α : Type} (read : Read α) (s : Reading) (more : List Token) (P : α → Graph → Prop) : Prop :=
  ∃ a g, read.run s = .ok (a, { s with tokens := more, graph := g }) ∧ s.graph.Extends g ∧ P a g

namespace Reads

variable {α β : Type} {read : Read α} {f : α → Read β} {P : α → Graph → Prop} {Q : β → Graph → Prop}
  {mid : List Token}

theorem bind (first : Reads read s mid P)
    (second : ∀ a g, P a g → s.graph.Extends g → Reads (f a) { s with tokens := mid, graph := g } more Q) :
    Reads (read >>= f) s more Q := by
  obtain ⟨a, g, run, grows, result⟩ := first
  obtain ⟨b, g', run', grows', result'⟩ := second a g result grows
  refine ⟨b, g', ?_, grows.trans grows', result'⟩
  rw [StateT.run_bind, run, ok_bind]
  exact run'

theorem imp {P' : α → Graph → Prop} (h : Reads read s more P) (implies : ∀ a g, P a g → P' a g) :
    Reads read s more P' := by
  obtain ⟨a, g, run, grows, result⟩ := h
  exact ⟨a, g, run, grows, implies a g result⟩

theorem congr {read' : Read α} (same : read.run s = read'.run { s with tokens := mid })
    (h : Reads read' { s with tokens := mid } more P) : Reads read s more P := by
  obtain ⟨a, g, run, grows, result⟩ := h
  exact ⟨a, g, same.trans run, grows, result⟩

theorem pure {a : α} (tokens : s.tokens = more) (h : P a s.graph) : Reads (Pure.pure a) s more P := by
  subst tokens
  exact ⟨a, s.graph, rfl, .refl _, h⟩

end Reads

namespace Document

/-- The tokens that stand between the nodes of a block. -/
def blockMarks : List Token := [.blockEntry, .key, .value, .blockEnd]

/-- The first token of a document is none of the marks, unless it is a list without a block of its own. -/
theorem exists_tokens_cons (document : Document) (flat : Bool) :
    ∃ token rest, document.tokens flat = token :: rest ∧
      (token ∉ blockMarks ∨ flat = true ∧ token = .blockEntry) := by
  match document with
  | .text t => exact ⟨_, [], by rw [tokens], .inl (by simp [textToken, blockMarks])⟩
  | .int n => exact ⟨_, [], by rw [tokens], .inl (by simp [blockMarks])⟩
  | .list [] => exact ⟨_, _, by rw [tokens], .inl (by simp [blockMarks])⟩
  | .map [] => exact ⟨_, _, by rw [tokens], .inl (by simp [blockMarks])⟩
  | .map (entry :: rest) => exact ⟨_, _, by rw [tokens]; rfl, .inl (by simp [blockMarks])⟩
  | .list (item :: rest) =>
    cases flat with
    | true => exact ⟨_, _, by rw [tokens, if_pos rfl, itemTokens]; rfl, .inr ⟨rfl, rfl⟩⟩
    | false => exact ⟨_, _, by rw [tokens, if_neg (by decide)]; rfl, .inl (by simp [blockMarks])⟩

/-- The node of a text, whether it was written with quotes or without. -/
theorem reads_text {text : Text} (position : Position) (tokens : s.tokens = textToken text :: more) :
    Reads (readNode (fuel + 1) position) s more fun id g =>
      id = s.graph.size ∧ g.node id = ⟨.text, .scalar text⟩ := by
  have tag : (if decide (styleOf text = .plain) = true then plainTag text else .text) = .text := by
    split
    · next plain => exact (isPlain_of_styleOf (of_decide_eq_true plain)).2.1
    · rfl
  have read : (readNode (fuel + 1) position).run s = _ := readNode_scalar tokens position
  rw [tag] at read
  exact ⟨_, _, read, .push _ _, rfl, Graph.node_push_self⟩

/-- Reading a node where none of the ends comes. -/
theorem reads_nodeOrEmpty {position : Position} {ends : List Token} {P : NodeId → Graph → Prop}
    (tokens : s.tokens = token :: rest) (apart : token ∉ ends) (h : Reads (readNode fuel position) s more P) :
    Reads (readNodeOrEmpty (fuel + 1) position ends) s more P :=
  .congr (readNodeOrEmpty_run tokens (by simpa using apart) position) h

/-- What is in a collection stands behind it, and its own node gets the contents. -/
theorem reads_collection {position : Position} {form : Form} {P : Content → Graph → Prop}
    (tokens : s.tokens = token :: rest) (starts : position.form? token = some form)
    (inside : Reads (readContent fuel form) { s with graph := s.graph.push ⟨form.tag, .sequence []⟩ } more P) :
    Reads (readNode (fuel + 1) position) s more fun id g => id = s.graph.size ∧ ∃ content g',
      P content g' ∧ g.node id = ⟨form.tag, content⟩ ∧ ∀ j, id < j → g.node j = g'.node j := by
  obtain ⟨content, g, run, grows, result⟩ := inside
  have inGraph : s.graph.size < g.size := by
    have := grows.size
    simp only [Graph.size_push] at this
    omega
  have own : g.node s.graph.size = ⟨form.tag, .sequence []⟩ :=
    (grows.node _ (by simp)).trans Graph.node_push_self
  refine ⟨_, _, readNode_collection tokens starts run, ⟨?_, ?_⟩, rfl, content, g, result, ?_, ?_⟩
  · rw [Graph.setContent, Graph.size_set]
    exact Nat.le_of_lt inGraph
  · intro j hj
    rw [Graph.setContent, Graph.node_set_of_ne (Nat.ne_of_lt hj)]
    exact (grows.node j (by simp; omega)).trans (Graph.node_push_of_lt hj)
  · rw [Graph.setContent, Graph.node_set_self inGraph, own]
  · intro j hj
    rw [Graph.setContent, Graph.node_set_of_ne (Nat.ne_of_gt hj)]

theorem reads_map {position : Position} {form : Form} {entries : List (Text × Document)}
    (tokens : s.tokens = token :: rest) (starts : position.form? token = some form) (tag : form.tag = .map)
    (inside : Reads (readContent fuel form) { s with graph := s.graph.push ⟨.map, .sequence []⟩ } more
      fun content g => ∃ ids, content = .mapping ids ∧ EntriesStand g ids entries ∧
        ∀ i ∈ ids, (s.graph.push ⟨.map, .sequence []⟩).size ≤ i.1 ∧
          (s.graph.push ⟨.map, .sequence []⟩).size ≤ i.2) :
    Reads (readNode (fuel + 1) position) s more fun id g =>
      id = s.graph.size ∧ StandsFor g id (.map entries) := by
  rw [← tag] at inside
  refine (reads_collection tokens starts inside).imp ?_
  rintro id g ⟨rfl, content, g', ⟨ids, rfl, stand, later⟩, own, agree⟩
  simp only [Graph.size_push] at later
  rw [tag] at own
  exact ⟨rfl, ids, own, later, stand.congr (fun j above _ => agree j above) later⟩

theorem reads_list {position : Position} {form : Form} {items : List Document}
    (tokens : s.tokens = token :: rest) (starts : position.form? token = some form) (tag : form.tag = .list)
    (inside : Reads (readContent fuel form) { s with graph := s.graph.push ⟨.list, .sequence []⟩ } more
      fun content g => ∃ ids, content = .sequence ids ∧ ItemsStand g ids items ∧
        ∀ i ∈ ids, (s.graph.push ⟨.list, .sequence []⟩).size ≤ i) :
    Reads (readNode (fuel + 1) position) s more fun id g =>
      id = s.graph.size ∧ StandsFor g id (.list items) := by
  rw [← tag] at inside
  refine (reads_collection tokens starts inside).imp ?_
  rintro id g ⟨rfl, content, g', ⟨ids, rfl, stand, later⟩, own, agree⟩
  simp only [Graph.size_push] at later
  rw [tag] at own
  exact ⟨rfl, ids, own, later, stand.congr (fun j above _ => agree j above) later⟩

mutual

/-- The tokens of a document are read to a node that stands for it. -/
theorem reads_node (document : Document) (legible : document.Legible) {flat : Bool} {fuel : Nat}
    {position : Position} {s : Reading} {more : List Token}
    (tokens : s.tokens = document.tokens flat ++ more) (enough : 4 * (document.tokens flat).length ≤ fuel)
    (place : position = .blockValue ∨ position = .block ∧ flat = false)
    (stop : flat = true → ∃ token rest, more = token :: rest ∧ token ≠ .blockEntry) :
    Reads (readNode fuel position) s more fun id g => id = s.graph.size ∧ StandsFor g id document := by
  have positive : 0 < (document.tokens flat).length := by
    obtain ⟨token, rest, same, -⟩ := exists_tokens_cons document flat
    simp [same]
  have noFlow : position ≠ .flow := by
    rcases place with rfl | ⟨rfl, -⟩ <;> decide
  -- Reading a token takes no more than four steps, so what is left is enough for the parts.
  obtain ⟨fuel, rfl⟩ := Nat.exists_eq_succ_of_ne_zero (by omega : fuel ≠ 0)
  obtain ⟨fuel, rfl⟩ := Nat.exists_eq_succ_of_ne_zero (by omega : fuel ≠ 0)
  match document with
  | .text t => exact reads_text position tokens
  | .int n =>
    have read : (readNode (fuel + 2) position).run s = _ := readNode_scalar tokens position
    rw [plainTag_ofInt] at read
    exact ⟨_, _, read, .push _ _, rfl, Graph.node_push_self⟩
  | .list [] =>
    rw [Document.tokens] at tokens enough
    obtain ⟨fuel, rfl⟩ := Nat.exists_eq_add_of_le (show 1 ≤ fuel by simp at enough; omega)
    rw [Nat.add_comm 1 fuel]
    exact reads_list tokens rfl rfl ⟨_, _, readContent_emptySequence tokens, .refl _, [], rfl, rfl, by simp⟩
  | .map [] =>
    rw [Document.tokens] at tokens enough
    obtain ⟨fuel, rfl⟩ := Nat.exists_eq_add_of_le (show 1 ≤ fuel by simp at enough; omega)
    rw [Nat.add_comm 1 fuel]
    exact reads_map tokens rfl rfl ⟨_, _, readContent_emptyMapping tokens, .refl _, [], rfl, rfl, by simp⟩
  | .map (entry :: rest) =>
    rw [Document.tokens] at tokens enough
    simp only [List.cons_append, List.append_assoc, List.length_cons, List.length_append, List.length_nil]
      at tokens enough
    refine reads_map tokens (if_neg noFlow) rfl (.congr (readContent_mapping tokens)
      (.bind (reads_entries _ legible.2 rfl (by omega) (by omega)) ?_))
    exact fun ids g inside _ => .pure rfl ⟨ids, rfl, inside⟩
  | .list (item :: rest) =>
    cases flat with
    | false =>
      rw [Document.tokens, if_neg (by decide)] at tokens enough
      simp only [List.cons_append, List.append_assoc, List.length_cons, List.length_append, List.length_nil]
        at tokens enough
      refine reads_list tokens (if_neg noFlow) rfl (.congr (readContent_sequence tokens)
        (.bind (reads_items _ legible (by simp [blockMarks]) (fun _ _ _ => readBlockItems_entry)
          (fun _ _ => readBlockItems_end) rfl (by omega) (by omega)) ?_))
      exact fun ids g inside _ => .pure rfl ⟨ids, rfl, inside⟩
    | true =>
      -- A list that has no block of its own ends where no further item comes.
      obtain ⟨token, following, rfl, noEntry⟩ := stop rfl
      rw [Document.tokens, if_pos rfl] at tokens enough positive
      obtain rfl : position = .blockValue := by simpa using place
      have first : s.tokens = .blockEntry ::
          (item.tokens false ++ itemTokens rest ++ token :: following) := by
        rw [tokens, itemTokens]
        rfl
      have last : ∀ fuel s, s.tokens = token :: following →
          (readFlatItems (fuel + 1)).run s = .ok ([], { s with tokens := token :: following }) := by
        intro fuel s h
        rw [readFlatItems_end h noEntry, ← h]
      refine reads_list first rfl rfl (.bind (reads_items _ legible
        (by simp [blockMarks]) (fun _ _ _ => readFlatItems_entry) last tokens (by omega) (by omega)) ?_)
      exact fun ids g inside _ => .pure rfl ⟨ids, rfl, inside⟩

/-- The items of a sequence are read to nodes that stand for them, however the sequence ends. -/
theorem reads_items (items : List Document) (legible : AllLegible items) {reader : Nat → Read (List NodeId)}
    {ends stop more : List Token} (marks : ends ⊆ blockMarks)
    (entry : ∀ fuel s rest, s.tokens = .blockEntry :: rest → (reader (fuel + 1)).run s = (do
      let item ← readNodeOrEmpty fuel .block ends
      return item :: (← reader fuel) : Read (List NodeId)).run { s with tokens := rest })
    (last : ∀ fuel s, s.tokens = stop → (reader (fuel + 1)).run s = .ok ([], { s with tokens := more }))
    {fuel : Nat} {s : Reading} (tokens : s.tokens = itemTokens items ++ stop)
    (enough : 4 * (itemTokens items).length ≤ fuel + 2) (some : 0 < fuel) :
    Reads (reader fuel) s more fun ids g => ItemsStand g ids items ∧ ∀ i ∈ ids, s.graph.size ≤ i := by
  obtain ⟨fuel, rfl⟩ := Nat.exists_eq_succ_of_ne_zero (Nat.ne_of_gt some)
  match items with
  | [] =>
    exact ⟨[], s.graph, last fuel s tokens, .refl _, rfl, by simp⟩
  | item :: rest =>
    obtain ⟨token, others, itemTokens_eq, noMark⟩ := exists_tokens_cons item false
    have noMark : token ∉ ends := by
      rcases noMark with noMark | ⟨flat, -⟩
      · exact fun member => noMark (marks member)
      · cases flat
    have length : (itemTokens (item :: rest)).length =
        (item.tokens false).length + (itemTokens rest).length + 1 := by
      simp [itemTokens]
    have positive : 0 < (item.tokens false).length := by simp [itemTokens_eq]
    rw [length] at enough
    obtain ⟨fuel, rfl⟩ := Nat.exists_eq_succ_of_ne_zero (by omega : fuel ≠ 0)
    refine .congr (entry _ s (item.tokens false ++ (itemTokens rest ++ stop)) (by simp [tokens, itemTokens])) ?_
    refine .bind
      (reads_nodeOrEmpty (by rw [itemTokens_eq]; rfl) noMark
        (reads_node item legible.1 rfl (by omega) (.inr ⟨rfl, rfl⟩) (by simp))) ?_
    rintro id g ⟨rfl, stands⟩ grows
    refine .bind (reads_items rest legible.2 marks entry last rfl (by omega) (by omega)) ?_
    rintro ids g' ⟨restStand, later⟩ grows'
    refine .pure rfl ⟨⟨_, ids, rfl, stands.mono grows', restStand⟩, ?_⟩
    exact List.forall_mem_cons.2 ⟨Nat.le_refl _, fun i hi => Nat.le_trans grows.size (later i hi)⟩

/-- The entries of a mapping are read to nodes that stand for them. -/
theorem reads_entries (entries : List (Text × Document)) (legible : EntriesLegible entries) {fuel : Nat}
    {s : Reading} {more : List Token} (tokens : s.tokens = entryTokens entries ++ .blockEnd :: more)
    (enough : 4 * (entryTokens entries).length ≤ fuel + 2) (some : 0 < fuel) :
    Reads (readBlockEntries fuel) s more fun ids g => EntriesStand g ids entries ∧
      ∀ i ∈ ids, s.graph.size ≤ i.1 ∧ s.graph.size ≤ i.2 := by
  obtain ⟨fuel, rfl⟩ := Nat.exists_eq_succ_of_ne_zero (Nat.ne_of_gt some)
  match entries with
  | [] => exact ⟨[], s.graph, readBlockEntries_end tokens, .refl _, rfl, by simp⟩
  | (key, item) :: rest =>
    obtain ⟨token, others, itemTokens_eq, noMark⟩ := exists_tokens_cons item (isSimpleKey key)
    have noEnd : token ∉ [Token.key, .value, .blockEnd] := by
      rcases noMark with noMark | ⟨-, rfl⟩
      · exact fun member => noMark (List.mem_cons_of_mem _ member)
      · decide
    have length : (entryTokens ((key, item) :: rest)).length =
        (item.tokens (isSimpleKey key)).length + (entryTokens rest).length + 3 := by
      simp [entryTokens]
    have positive : 0 < (item.tokens (isSimpleKey key)).length := by simp [itemTokens_eq]
    -- What stands behind the value of a key ends a list there, since it is another key or the end.
    have following : ∃ token others, entryTokens rest ++ .blockEnd :: more = token :: others ∧
        token ≠ .blockEntry := by
      cases rest with
      | nil => exact ⟨_, _, rfl, by simp⟩
      | cons entry rest => exact ⟨_, _, by rw [entryTokens]; rfl, by simp⟩
    rw [length] at enough
    obtain ⟨fuel, rfl⟩ := Nat.exists_eq_succ_of_ne_zero (by omega : fuel ≠ 0)
    obtain ⟨fuel, rfl⟩ := Nat.exists_eq_succ_of_ne_zero (by omega : fuel ≠ 0)
    have behindKey : s.tokens = .key :: (textToken key :: .value :: (item.tokens (isSimpleKey key) ++
        (entryTokens rest ++ .blockEnd :: more))) := by
      simp [tokens, entryTokens]
    refine .congr (readBlockEntries_key behindKey) ?_
    refine .bind (reads_nodeOrEmpty rfl (by simp [textToken]) (reads_text _ rfl)) ?_
    rintro id g ⟨rfl, stands⟩ grows
    refine .bind (.congr (readValueAfter_value rfl _ _)
      (reads_nodeOrEmpty (by rw [itemTokens_eq]; rfl) noEnd
        (reads_node item legible.2.1 rfl (by omega) (.inl rfl) fun _ => following))) ?_
    rintro id g' ⟨rfl, itemStands⟩ grows'
    refine .bind (reads_entries rest legible.2.2 rfl (by omega) (by omega)) ?_
    rintro ids g'' ⟨restStand, later⟩ grows''
    refine .pure rfl ⟨⟨_, ids, rfl, ?_, itemStands.mono grows'', restStand⟩, ?_⟩
    · have inGraph := Graph.lt_size_of_node (by rw [stands]; simp [Node.empty])
      exact ((grows'.trans grows'').node _ inGraph).trans stands
    · refine List.forall_mem_cons.2 ⟨⟨Nat.le_refl _, grows.size⟩, fun i hi => ?_⟩
      have := grows.trans grows'
      exact ⟨Nat.le_trans this.size (later i hi).1, Nat.le_trans this.size (later i hi).2⟩

end

end Document

end FixedExtract.Yaml
