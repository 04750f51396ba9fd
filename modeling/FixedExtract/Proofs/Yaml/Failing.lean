import FixedExtract.Proofs.Traversal
import FixedExtract.Proofs.Yaml.Tracing
import FixedExtract.Yaml.Reader
/-!
# Why a text has no value

Merging and filling leave the nodes of a document what they are, so that what they fail for is a scalar without a value
for its tag, or the form of the document. Besides these there are only the few faults that the lexer may come upon.
-/

namespace FixedExtract.Yaml

variable {ts : List Token} {g : Graph} {id : NodeId} {node : Node}

/-! ## Merging -/

/-- While mappings are merged, all nodes come from the tokens, and those that are held may have contents. -/
structure Graph.Open (ts : List Token) (held : List NodeId) (g : Graph) : Prop where
  graph : g.From ts
  held : ∀ id ∈ held, MayCollect ts (g.node id).tag

/-- A part of merging. -/
abbrev Merges (ts : List Token) (held : List NodeId) {α : Type} (m : Merging α) : Prop :=
  Triple (· = Fault.malformed) (Graph.Open ts held) m fun _ g => g.Open ts held

section
variable {held : List NodeId}

namespace Graph

theorem node_set_cases (g : Graph) (id : NodeId) (node : Node) (other : NodeId) :
    other = id ∧ (g.set id node).node other = node ∨ (g.set id node).node other = g.node other := by
  by_cases same : other = id
  · subst same
    by_cases inside : other < g.size
    · exact .inl ⟨rfl, node_set_self inside⟩
    · right
      have outside : g.nodes.size ≤ other := Nat.le_of_not_lt inside
      rw [node_eq, node_eq, set, Array.getElem?_setIfInBounds_self, if_neg (Nat.not_lt.2 outside),
        Array.getElem?_eq_none outside]
  · exact .inr (node_set_of_ne same)

/-- A node is replaced by one that may have contents if the node itself may. -/
theorem Open.set (h : g.Open ts held) (new : node.From ts)
    (tag : MayCollect ts (g.node id).tag → MayCollect ts node.tag) : (g.set id node).Open ts held where
  graph := h.graph.set new
  held other member := by
    rcases g.node_set_cases id node other with ⟨rfl, replaced⟩ | same
    · rw [replaced]
      exact tag (h.held other member)
    · rw [same]
      exact h.held other member

theorem Open.setEntries (h : g.Open ts held) (may : MayCollect ts (g.node id).tag) (entries : NodeEntries) :
    (g.setContent id (.mapping entries)).Open ts held :=
  h.set (may.from nofun) fun may => may

/-- An equals sign that is a key becomes a text. -/
theorem Open.setTextKey (h : g.Open ts held) (key : NodeId) : (g.setTextKey key).Open ts held := by
  unfold Graph.setTextKey
  dsimp only
  split
  · refine h.set ?_ fun _ => .inr (.inl rfl)
    have own := h.graph.at key
    rw [Node.From] at own
    unfold Node.From
    dsimp only
    split
    · next content =>
      rw [content] at own
      exact ⟨own.1, .text _⟩
    · exact .inr (.inl rfl)
  · exact h

/-- A node with contents may be held. -/
theorem Open.hold (h : g.Open ts held) (id : NodeId) (collection : ∀ text, (g.node id).content ≠ .scalar text) :
    g.Open ts (id :: held) := by
  refine ⟨h.graph, List.forall_mem_cons.2 ⟨?_, h.held⟩⟩
  have own := h.graph.at id
  cases content : (g.node id).content with
  | scalar text => exact absurd content (collection text)
  | sequence items =>
    rw [Node.From, content] at own
    exact own
  | mapping entries =>
    rw [Node.From, content] at own
    exact own

theorem Open.release (h : g.Open ts (id :: held)) : g.Open ts held :=
  ⟨h.graph, fun other member => h.held other (List.mem_cons_of_mem id member)⟩

end Graph

/-- Merging goes from mappings to mappings, and none of them becomes a scalar. -/
theorem merges_mergeInto (fuel : Nat) : ∀ {held : List NodeId} {id : NodeId} (brought : NodeEntries), id ∈ held →
    Merges ts held (mergeInto fuel id brought) := by
  induction fuel with
  | zero => exact fun _ _ => Triple.throw rfl
  | succ fuel ih =>
    intro held id brought member
    have inner {other : NodeId} : Triple (· = Fault.malformed) (Graph.Open ts (other :: held)) (mergeInto fuel other [])
        fun _ g => g.Open ts held :=
      (ih [] List.mem_cons_self).mono (fun _ h => h) fun _ _ h => h.release
    refine Triple.get_bind fun g hg => ?_
    dsimp only
    split
    · -- Nothing is left to merge.
      have texts : ∀ (entries : NodeEntries) (g : Graph), g.Open ts held →
          (entries.foldl (fun g entry => g.setTextKey entry.1) g).Open ts held := by
        intro entries
        induction entries with
        | nil => exact fun _ h => h
        | cons entry rest ih => exact fun g h => ih _ (h.setTextKey entry.1)
      have opened := texts (g.entries id) g hg
      exact Triple.set fun _ _ => opened.setEntries (opened.held id member) _
    · next value others _ =>
      have may := hg.held id member
      split
      · exact Triple.bind (J := fun _ _ => True) (Triple.set fun _ _ => trivial) fun _ => Triple.throw rfl
      · next entries content =>
        have held' := hg.hold value (fun text same => by rw [content] at same; cases same)
        refine Triple.bind (J := fun _ g => g.Open ts (value :: held)) (Triple.set fun _ _ => held'.setEntries may _)
          fun _ => Triple.bind inner fun _ => ?_
        exact Triple.get_bind fun g' hg' => (ih _ member).mono (fun _ same => same ▸ hg') fun _ _ h => h
      · next items _ =>
        refine Triple.bind (J := fun _ g => g.Open ts held) (Triple.set fun _ _ => hg.setEntries may _) fun _ => ?_
        refine Triple.bind (Triple.mapM fun item _ => Triple.get_bind fun g' hg' => ?_) fun parts => ih _ member
        split
        · next entries content =>
          have held' := hg'.hold item (fun text same => by rw [content] at same; cases same)
          refine Triple.bind (inner.mono (fun _ same => same ▸ held') fun _ _ h => h) fun _ => ?_
          exact Triple.get_bind fun g'' hg'' => Triple.pure fun _ same => same ▸ hg''
        · exact Triple.throw rfl

/-- A mapping is merged. -/
theorem merges_merge (member : id ∈ held) : Merges ts held (merge id) :=
  Triple.get_bind fun _ hg => (merges_mergeInto _ _ member).mono (fun _ same => same ▸ hg) fun _ _ h => h

end

/-! ## Filling -/

/-- Some scalar has no value for its tag. -/
def Unvalued (ts : List Token) (fault : Fault) : Prop :=
  fault = .malformed ∨ ∃ text tag, Tagged ts text tag ∧ scalarValue text tag = .error fault

/-- A part of the filling of a document. -/
abbrev FillsFrom (ts : List Token) {α : Type} (m : Fill α) : Prop :=
  Triple (Unvalued ts) (fun s => s.graph.From ts) m fun _ s => s.graph.From ts

section
variable {α β : Type}

theorem FillsFrom.get_bind {f : Filling → Fill β} (next : ∀ s, s.graph.From ts → FillsFrom ts (f s)) :
    FillsFrom ts (get >>= f) :=
  Triple.get_bind fun s hs => (next s hs).mono (fun _ same => same ▸ hs) fun _ _ h => h

theorem FillsFrom.malformed : FillsFrom ts (throw .malformed : Fill α) := Triple.throw (.inl rfl)

theorem FillsFrom.set {s : Filling} (hs : s.graph.From ts) : FillsFrom ts (set s : Fill PUnit) :=
  Triple.set fun _ _ => hs

theorem FillsFrom.pure (a : α) : FillsFrom ts (pure a : Fill α) := Triple.pure fun _ hs => hs

theorem FillsFrom.bind {m : Fill α} {f : α → Fill β} (first : FillsFrom ts m) (next : ∀ a, FillsFrom ts (f a)) :
    FillsFrom ts (m >>= f) :=
  Triple.bind first next

/-- A node that is met has a value, unless it is a scalar that has none for its tag. -/
theorem fillsFrom_meet (id : NodeId) : FillsFrom ts (meet id) := by
  refine FillsFrom.get_bind fun s hs => Triple.ite (FillsFrom.pure _) ?_
  dsimp only
  split
  · exact FillsFrom.set hs
  · next single =>
    split
    · next text found =>
      have tagged := hs.tagged found (Bool.eq_false_iff.2 single)
      exact .bind (Triple.lift (fun _ failed => .inr ⟨text, _, tagged, failed⟩) fun _ _ _ hs => hs) fun _ =>
        FillsFrom.set hs
    · exact FillsFrom.malformed

theorem fillsFrom_meetEntries (entries : NodeEntries) : FillsFrom ts (meetEntries entries) := by
  refine Triple.forM fun entry _ => .bind (fillsFrom_meet _) fun _ => FillsFrom.get_bind fun s hs => ?_
  exact Triple.ite FillsFrom.malformed (fillsFrom_meet _)

theorem fillsFrom_itemsOf (id : NodeId) : FillsFrom ts (itemsOf id) := by
  refine FillsFrom.get_bind fun s hs => ?_
  split
  · exact .pure _
  · exact FillsFrom.malformed

theorem fillsFrom_singleEntry (item : NodeId) : FillsFrom ts (singleEntry item) := by
  refine FillsFrom.get_bind fun s hs => ?_
  split
  · exact .pure _
  · exact FillsFrom.malformed

/-- What is merged into a mapping comes from the same tokens. -/
theorem fillsFrom_fillEntries (id : NodeId) : FillsFrom ts (fillEntries id) := by
  refine Triple.get_bind fun s hs => ?_
  split
  · next entries content =>
    have opened : s.graph.Open ts [id] := Graph.Open.hold ⟨hs, List.forall_mem_nil _⟩ id fun text same => by
      rw [content] at same
      cases same
    obtain ⟨fails, merged⟩ := merges_merge List.mem_cons_self s.graph opened
    refine Triple.get_bind fun s' same => ?_
    subst same
    refine Triple.bind (J := fun part _ => part.2.From ts) (Triple.lift ?_ fun part ended _ _ => ?_) fun part => ?_
    · exact fails.mono fun _ same => .inl same
    · exact (merged part.1 part.2 ended).graph
    · refine Triple.bind (J := fun _ s => s.graph.From ts) (Triple.set fun _ hg => hg) fun _ => ?_
      exact .bind (fillsFrom_meetEntries _) fun _ => FillsFrom.get_bind fun _ _ => FillsFrom.pure _
  · exact Triple.throw (.inl rfl)

theorem fillsFrom_fill (id : NodeId) : FillsFrom ts (fill id) := by
  refine FillsFrom.get_bind fun s hs => ?_
  split
  · exact .bind (fillsFrom_fillEntries id) fun _ => .pure _
  · exact .bind (fillsFrom_fillEntries id) fun _ => .pure _
  · exact .bind (fillsFrom_itemsOf id) fun _ => .bind (Triple.forM fun item _ => fillsFrom_meet item) fun _ => .pure _
  · refine .bind (fillsFrom_itemsOf id) fun _ => .bind (Triple.mapM fun item _ => ?_) fun _ => .pure _
    exact .bind (fillsFrom_singleEntry item) fun _ => .bind (fillsFrom_meet _) fun _ =>
      .bind (fillsFrom_meet _) fun _ => FillsFrom.pure _

theorem fillsFrom_fillLevels (fuel : Nat) : FillsFrom ts (fillLevels fuel) := by
  induction fuel with
  | zero => exact .pure _
  | succ fuel ih =>
    refine FillsFrom.get_bind fun s hs => Triple.ite (FillsFrom.pure _) ?_
    refine .bind (Triple.modify fun _ hs => hs) fun _ => .bind (Triple.forM fun id _ => ?_) fun _ => ih
    exact .bind (fillsFrom_fill id) fun _ => Triple.modify fun _ hs => hs

theorem unvalued_of_valueOf {root : NodeId} (h : g.From ts) : FailsWith (Unvalued ts) (valueOf root g) := by
  have fills : FillsFrom ts (do meet root; fillLevels (g.size + 1)) :=
    .bind (fillsFrom_meet root) fun _ => fillsFrom_fillLevels _
  exact .bind (.bind (fills (.start g) h).1 fun _ => .ok _) fun _ => .ok _

end

/-! ## Whole texts -/

variable {α : Type}

/-- A fault of a text with these tokens. -/
def TextFault (ts : List Token) (fault : Fault) : Prop := LexicalFault fault ∨ Unvalued ts fault

theorem from_startReading {text : Text} {s : Reading} (h : startReading text = .ok s) :
    s.From (tokens text).1 [] := by
  unfold startReading at h
  split at h
  · obtain ⟨found, fault, scanned⟩ : ∃ found fault, tokens text = (found, fault) := ⟨_, _, rfl⟩
    rw [scanned, Except.ok.injEq] at h
    subst h
    rw [scanned]
    refine ⟨List.Subset.refl _, fun fault' same => ?_, .empty, List.forall_mem_nil _⟩
    exact lexicalFault_of_tokens (scanned.trans (congrArg (Prod.mk found) same))
  · cases h

theorem textFault_of_lexical {x : Except Fault α} (h : Lexical x) : FailsWith (TextFault ts) x :=
  h.mono fun _ => .inl

theorem textFault_of_startReading (text : Text) : FailsWith (TextFault ts) (startReading text) :=
  .ite (.ok _) (.error (.inl .malformed))

/-- A document fails for one of these reasons, and what is left to read comes from the tokens as well. -/
theorem textFault_of_readValue (start : Start) {s : Reading} (hs : s.From ts []) :
    FailsWith (TextFault ts) (readValue start s) ∧
      ∀ value s', readValue start s = .ok (value, s') → s'.From ts [] := by
  obtain ⟨fails, ends⟩ := triple_readRoot start s hs
  constructor
  · refine .bind_of_ok (textFault_of_lexical fails) fun part read => .bind ?_ fun _ => .ok _
    exact (unvalued_of_valueOf (ends _ _ read).graph).mono fun _ => .inr
  · intro value s' h
    obtain ⟨⟨root, reading⟩, read, h⟩ := bind_eq_ok_iff.1 h
    obtain ⟨_, -, made⟩ := bind_eq_ok_iff.1 h
    cases made
    exact ends _ _ read

theorem textFault_of_readRest (fuel : Nat) (first : Bool) {s : Reading} (hs : s.From ts []) :
    FailsWith (TextFault ts) (readRest fuel first s) := by
  induction fuel generalizing first s with
  | zero => exact .error (.inl .malformed)
  | succ fuel ih =>
    obtain ⟨fails, ends⟩ := traces_readStart first s hs
    refine .bind_of_ok (textFault_of_lexical fails) fun part started => ?_
    split
    · exact .ok _
    · next start reading =>
      obtain ⟨fails', ends'⟩ := textFault_of_readValue start (ends _ _ started).1
      exact .bind_of_ok fails' fun part' read => .bind (ih false (ends' _ _ read)) fun _ => .ok _

/-- Reading a text fails because of its form, of a character that there is none of, of a version number that is too
long, or of a scalar that has no value for its tag. -/
theorem textFault_of_readAll (text : Text) : FailsWith (TextFault (tokens text).1) (readAll text) :=
  .bind_of_ok (textFault_of_startReading text) fun _ started => textFault_of_readRest _ true (from_startReading started)

theorem textFault_of_read (text : Text) : FailsWith (TextFault (tokens text).1) (read text) := by
  refine .bind_of_ok (textFault_of_startReading text) fun s started => ?_
  obtain ⟨fails, ends⟩ := traces_readStart true s (from_startReading started)
  refine .bind_of_ok (textFault_of_lexical fails) fun part first => ?_
  split
  · exact .ok _
  · next start reading =>
    obtain ⟨fails', ends'⟩ := triple_readRoot start reading (ends _ _ first).1
    refine .bind_of_ok (textFault_of_lexical fails') fun root read => ?_
    have document := ends' _ _ read
    refine .bind (textFault_of_lexical (traces_readStart false root.2 document).1) fun next => ?_
    split
    · exact (unvalued_of_valueOf document.graph).mono fun _ => .inr
    · exact .error (.inl .malformed)

end FixedExtract.Yaml
