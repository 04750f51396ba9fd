import FixedExtract.Proofs.Yaml.Graph
import FixedExtract.Proofs.Yaml.Number
import FixedExtract.Proofs.Yaml.Written
import FixedExtract.Yaml.Filling
/-!
# Filling the collections of a document

While collections are being filled, every node that was met either is a collection that still waits, or
stands for what it shows, and what is in it was met as well. No level brings up nodes of an earlier one, so
after as many levels as there are nodes nothing waits any more.
-/

namespace FixedExtract.Yaml

variable {g : Graph} {s s' : Filling} {id other : NodeId} {m : Meaning} {low : Nat} {level : List NodeId}

/-! ## Merging -/

theorem Graph.setContent_self {content : Content} (h : (g.node id).content = content) :
    g.setContent id content = g := by
  subst h
  have same : g.nodes.setIfInBounds id (g.node id) = g.nodes := by
    ext i hi hi'
    · exact Array.size_setIfInBounds
    · rw [Array.getElem_setIfInBounds]
      split
      · next here => subst here; simp [Graph.node_eq, hi']
      · rfl
  exact congrArg Graph.mk same

/-- Where every key is a text, merging changes nothing. -/
theorem merge_run {ids : NodeEntries} (own : (g.node id).content = .mapping ids)
    (keys : ∀ entry ∈ ids, (g.node entry.1).tag = .text) : (merge id).run g = .ok ((), g) := by
  have entries : g.entries id = ids := by rw [Graph.entries, own]
  have noMerge : g.takeMerge? ids = none := by
    clear own entries
    induction ids with
    | nil => rfl
    | cons entry rest ih =>
      obtain ⟨first, others⟩ := List.forall_mem_cons.1 keys
      rw [Graph.takeMerge?, first, if_neg (by decide), ih others]
      rfl
  have unchanged : ids.foldl (fun g entry => g.setTextKey entry.1) g = g := by
    clear own entries noMerge
    induction ids with
    | nil => rfl
    | cons entry rest ih =>
      obtain ⟨first, others⟩ := List.forall_mem_cons.1 keys
      have same : g.setTextKey entry.1 = g := by
        rw [Graph.setTextKey, first]
        exact if_neg (by decide)
      rw [List.foldl_cons, same, ih others]
  show (mergeInto (g.mergeCount + 1) id []).run g = _
  rw [mergeInto, StateT.run_bind, StateT.run_get, pure_bind]
  simp only [entries, noMerge]
  show Except.ok ((), (ids.foldl (fun g entry => g.setTextKey entry.1) g).setContent id (.mapping ids)) = _
  rw [unchanged, Graph.setContent_self own]

/-! ## What nodes stand for -/

namespace Filling

/-- What a node stands for, if it was met. -/
def found (s : Filling) (id : NodeId) : Option Meaning := s.meanings.getD id none

def Met (s : Filling) (id : NodeId) : Prop := (s.found id).isSome = true

theorem found_eq (s : Filling) (id : NodeId) : s.found id = s.meanings[id]?.getD none :=
  Array.getD_eq_getD_getElem?

theorem meaning_of_found (h : s.found id = some m) : s.meaning id = m := by
  unfold found at h
  rw [meaning, h]
  rfl

theorem found_mean_self (h : id < s.meanings.size) : (s.mean id m).found id = some m := by
  rw [found_eq, mean, Array.getElem?_setIfInBounds_self_of_lt h]
  rfl

theorem found_mean_of_ne (h : other ≠ id) : (s.mean id m).found other = s.found other := by
  rw [found_eq, found_eq, mean, Array.getElem?_setIfInBounds_ne h.symm]

theorem Met.mean (h : s.Met other) (inside : id < s.meanings.size) : (s.mean id m).Met other := by
  by_cases same : other = id
  · subst same
    rw [Met, found_mean_self inside]
    rfl
  · rw [Met, found_mean_of_ne same]
    exact h

/-- A node stands for what it shows, and what is in it was met. -/
inductive Settled (s : Filling) : Node → Meaning → Prop
  | text (t : Text) : Settled s ⟨.text, .scalar t⟩ (.plain (.text t))
  | int {n : Int} (read : integerValue (Text.ofInt n) = .ok n) :
      Settled s ⟨.int, .scalar (Text.ofInt n)⟩ (.plain (.int n))
  | list {ids : List NodeId} (met : ∀ i ∈ ids, s.Met i) : Settled s ⟨.list, .sequence ids⟩ (.list ids)
  | map {ids : NodeEntries} (met : ∀ i ∈ ids, s.Met i.1 ∧ s.Met i.2) :
      Settled s ⟨.map, .mapping ids⟩ (.map ids)

theorem Settled.mono {node : Node} (h : s.Settled node m) (met : ∀ id, s.Met id → s'.Met id) :
    s'.Settled node m := by
  cases h with
  | text t => exact .text t
  | int read => exact .int read
  | list inside => exact .list fun i hi => met i (inside i hi)
  | map inside => exact .map fun i hi => ⟨met _ (inside i hi).1, met _ (inside i hi).2⟩

/-- The value of a text that was met. -/
theorem Settled.keyValue {t : Text} (found : s.found id = some m) (h : s.Settled ⟨.text, .scalar t⟩ m) :
    s.keyValue id = .text t := by
  cases h with
  | text => rw [Filling.keyValue, meaning_of_found found]

/-- A collection that shows a document. -/
def Collects (g : Graph) (id : NodeId) : Prop :=
  ∃ document, StandsFor g id document ∧ document.Legible ∧ (g.node id).tag.isCollection = true

theorem Collects.lt_size (h : Collects g id) : id < g.size := by
  obtain ⟨document, stands, -⟩ := h
  exact stands.lt_size

/-- The filling of a document while the collections of a level are filled and others wait, which come from
the number `low` on. -/
structure Progress (g : Graph) (low : Nat) (level : List NodeId) (s : Filling) : Prop where
  graph : s.graph = g
  size : s.meanings.size = g.size
  inLevel : ∀ id ∈ level, Collects g id
  later : ∀ id ∈ s.waiting, low ≤ id ∧ Collects g id
  settled : ∀ id m, s.found id = some m → id ∈ level ∨ id ∈ s.waiting ∨ s.Settled (g.node id) m

namespace Progress

theorem met (h : s.Progress g low level) (inside : id < g.size) : (s.mean id m).Met id := by
  rw [Met, found_mean_self (h.size ▸ inside)]
  rfl

/-- A node gets its meaning: it waits, or the meaning is what it shows. -/
theorem mean {level' : List NodeId} (h : s.Progress g low level) (inside : id < g.size)
    (subset : level' ⊆ level) (others : ∀ i ∈ level, i ≠ id → i ∈ level')
    (new : id ∈ level' ∨ id ∈ s.waiting ∨ (s.mean id m).Settled (g.node id) m) :
    (s.mean id m).Progress g low level' where
  graph := h.graph
  size := Array.size_setIfInBounds.trans h.size
  inLevel i hi := h.inLevel i (subset hi)
  later := h.later
  settled other meaning hm := by
    have met : ∀ id', s.Met id' → (s.mean id m).Met id' := fun id' met => met.mean (h.size ▸ inside)
    by_cases same : other = id
    · subst same
      rw [found_mean_self (h.size ▸ inside)] at hm
      cases hm
      exact new
    · rw [found_mean_of_ne same] at hm
      rcases h.settled other meaning hm with member | waits | settled
      · exact .inl (others other member same)
      · exact .inr (.inl waits)
      · exact .inr (.inr (settled.mono met))

/-- A collection is put among those that wait. -/
theorem wait (h : s.Progress g low level) (above : low ≤ id) (collects : Collects g id) :
    ({ s with waiting := id :: s.waiting } : Filling).Progress g low level where
  graph := h.graph
  size := h.size
  inLevel := h.inLevel
  later := List.forall_mem_cons.2 ⟨⟨above, collects⟩, h.later⟩
  settled other meaning hm := by
    rcases h.settled other meaning hm with member | waits | settled
    · exact .inl member
    · exact .inr (.inl (List.mem_cons_of_mem id waits))
    · exact .inr (.inr (settled.mono fun _ met => met))

/-- A text that was met is the value of its node. -/
theorem keyValue (h : s.Progress g low level) {t : Text} (key : g.node id = ⟨.text, .scalar t⟩)
    (met : s.Met id) : s.keyValue id = .text t := by
  obtain ⟨meaning, found⟩ := Option.isSome_iff_exists.1 met
  have noCollection : ¬Collects g id := by
    rintro ⟨document, -, -, tag⟩
    rw [key] at tag
    cases tag
  rcases h.settled id meaning found with member | waits | settled
  · exact absurd (h.inLevel id member) noCollection
  · exact absurd (h.later id waits).2 noCollection
  · rw [key] at settled
    exact settled.keyValue found

end Progress

/-! ## Distinct keys -/

theorem putKey_new {key value : NodeId} {t : Text} (own : s.keyValue key = .text t) {kept : NodeEntries}
    (fresh : ∀ entry ∈ kept, ∃ other, s.keyValue entry.1 = .text other ∧ other ≠ t) :
    s.putKey key value kept = kept ++ [(key, value)] := by
  induction kept with
  | nil => rfl
  | cons entry rest ih =>
    obtain ⟨⟨other, value', apart⟩, others⟩ := List.forall_mem_cons.1 fresh
    have noKey : ¬(entry.1 = key || sameKey (s.keyValue entry.1) (s.keyValue key) : Bool) = true := by
      rw [Bool.or_eq_true, decide_eq_true_eq]
      rintro (same | same)
      · rw [same, own] at value'
        cases value'
        exact apart rfl
      · rw [value', own] at same
        exact apart (by simpa [sameKey] using same)
    rw [putKey, if_neg noKey, ih others]
    rfl

/-- Entries with new keys are put behind those that are there. -/
theorem foldl_putKey {ids kept : NodeEntries} {keys before : List Text}
    (own : List.Forall₂ (fun id key => s.keyValue id.1 = .text key) ids keys)
    (known : ∀ id ∈ kept, ∃ key ∈ before, s.keyValue id.1 = .text key) (nodup : (before ++ keys).Nodup) :
    ids.foldl (fun kept entry => s.putKey entry.1 entry.2 kept) kept = kept ++ ids := by
  induction own generalizing kept before with
  | nil => exact (List.append_nil _).symm
  | @cons id key ids keys own _ ih =>
    have fresh : ∀ id ∈ kept, ∃ other, s.keyValue id.1 = .text other ∧ other ≠ key := by
      intro id hi
      obtain ⟨other, member, value⟩ := known id hi
      exact ⟨other, value, (List.nodup_append.1 nodup).2.2 other member key List.mem_cons_self⟩
    have known' : ∀ i ∈ kept ++ [id], ∃ other ∈ before ++ [key], s.keyValue i.1 = .text other := by
      intro i hi
      rcases List.mem_append.1 hi with hi | hi
      · obtain ⟨other, member, value⟩ := known i hi
        exact ⟨other, List.mem_append_left _ member, value⟩
      · rw [List.mem_singleton.1 hi]
        exact ⟨key, by simp, own⟩
    rw [List.foldl_cons, putKey_new own fresh, ih known' (by rw [List.append_assoc]; exact nodup),
      List.append_assoc]
    rfl

/-- Entries with distinct keys are all kept. -/
theorem distinct_eq_self {ids : NodeEntries} {keys : List Text}
    (own : List.Forall₂ (fun id key => s.keyValue id.1 = .text key) ids keys) (nodup : keys.Nodup) :
    s.distinct ids = ids :=
  foldl_putKey own (List.forall_mem_nil _) (show ([] ++ keys).Nodup from nodup)

end Filling

/-! ## Steps of filling -/

/-- Filling goes on, with a result that fulfils `P`, and forgets no node that was met. -/
def Fills {α : Type} (g : Graph) (low : Nat) (level : List NodeId) (x : Fill α) (s : Filling)
    (P : α → Filling → Prop) : Prop :=
  ∃ a s', x.run s = .ok (a, s') ∧ s'.Progress g low level ∧ (∀ id, s.Met id → s'.Met id) ∧ P a s'

theorem Fills.bind {α β : Type} {x : Fill α} {f : α → Fill β} {P : α → Filling → Prop}
    {Q : β → Filling → Prop} (first : Fills g low level x s P)
    (second : ∀ a s', s'.Progress g low level → (∀ id, s.Met id → s'.Met id) → P a s' →
      Fills g low level (f a) s' Q) : Fills g low level (x >>= f) s Q := by
  obtain ⟨a, s', run, progress, met, result⟩ := first
  obtain ⟨b, s'', run', progress', met', result'⟩ := second a s' progress met result
  refine ⟨b, s'', ?_, progress', fun id h => met' id (met id h), result'⟩
  rw [StateT.run_bind, run, ok_bind]
  exact run'

/-- A loop in which every step fills something that stays filled. -/
theorem Fills.forM {α : Type} {list : List α} {f : α → Fill Unit} {P : α → Filling → Prop}
    (stays : ∀ a s s', (∀ id, s.Met id → s'.Met id) → P a s → P a s')
    (step : ∀ a ∈ list, ∀ s : Filling, s.Progress g low level → Fills g low level (f a) s fun _ => P a)
    (progress : s.Progress g low level) :
    Fills g low level (list.forM f) s fun _ s' => ∀ a ∈ list, P a s' := by
  induction list generalizing s with
  | nil => exact ⟨(), s, rfl, progress, fun _ h => h, by simp⟩
  | cons a rest ih =>
    show Fills g low level (f a >>= fun _ => rest.forM f) s _
    refine .bind (step a List.mem_cons_self s progress) ?_
    intro _ s' progress' _ first
    obtain ⟨_, s'', run, progress'', keeps, others⟩ :=
      ih (fun b hb => step b (List.mem_cons_of_mem a hb)) progress'
    exact ⟨(), s'', run, progress'', keeps, List.forall_mem_cons.2 ⟨stays a s' s'' keeps first, others⟩⟩

/-- A collection that is met waits for its contents. -/
theorem meet_collection (unmet : ¬s.Met id) (graph : s.graph = g)
    (collection : (g.node id).tag.isCollection = true) : (meet id).run s =
      .ok ((), Filling.mean { s with waiting := id :: s.waiting } id (.list [])) := by
  have unfound : ¬(s.meanings.getD id none).isSome = true := unmet
  subst graph
  rw [meet, StateT.run_bind, StateT.run_get]
  show StateT.run (if (s.meanings.getD id none).isSome = true then _ else
    if (s.graph.node id).tag.isCollection = true then _ else _) s = _
  rw [if_neg unfound, if_pos collection]
  rfl

/-- A scalar that is met stands for its value. -/
theorem meet_scalar {text : Text} {tag : Tag} {value : Value} (unmet : ¬s.Met id) (graph : s.graph = g)
    (shown : g.node id = ⟨tag, .scalar text⟩) (scalar : tag.isCollection = false)
    (h : scalarValue text tag = .ok value) : (meet id).run s = .ok ((), s.mean id (.plain value)) := by
  have unfound : ¬(s.meanings.getD id none).isSome = true := unmet
  subst graph
  have written : s.graph.scalarText? (s.graph.size + 1) id = some text := by
    rw [Graph.scalarText?, shown]
  rw [meet, StateT.run_bind, StateT.run_get, pure_bind]
  simp only [if_neg unfound, shown, scalar, written, h, Bool.false_eq_true, if_false]
  rfl

/-- Meeting the node of a document. -/
theorem fills_meet {document : Document} (progress : s.Progress g low level)
    (stands : StandsFor g id document) (legible : document.Legible) (above : low ≤ id) :
    Fills g low level (meet id) s fun _ s' => s'.Met id := by
  -- What was met stays as it is, a collection waits, and a scalar stands for its value at once.
  by_cases met : s.Met id
  · refine ⟨(), s, ?_, progress, fun _ h => h, met⟩
    have found : (s.meanings.getD id none).isSome = true := met
    rw [meet, StateT.run_bind, StateT.run_get]
    show StateT.run (if (s.meanings.getD id none).isSome = true then _ else _) s = _
    rw [if_pos found]
    rfl
  have inside : id < g.size := stands.lt_size
  have keeps : ∀ m other, s.Met other → (s.mean id m).Met other :=
    fun m other h => h.mean (progress.size ▸ inside)
  by_cases collection : (g.node id).tag.isCollection = true
  · have waits := progress.wait above ⟨document, stands, legible, collection⟩
    refine ⟨(), _, meet_collection met progress.graph collection, ?_, fun other h => keeps _ other h,
      waits.met inside⟩
    exact waits.mean inside (List.Subset.refl _) (fun _ h _ => h) (.inr (.inl List.mem_cons_self))
  match document with
  | .text t =>
    have shown : g.node id = ⟨.text, .scalar t⟩ := stands
    refine ⟨(), s.mean id (.plain (.text t)), meet_scalar met progress.graph shown rfl rfl, ?_, keeps _,
      progress.met inside⟩
    refine progress.mean inside (List.Subset.refl _) (fun _ h _ => h) (.inr (.inr ?_))
    rw [shown]
    exact .text t
  | .int n =>
    have shown : g.node id = ⟨.int, .scalar (Text.ofInt n)⟩ := stands
    have value : scalarValue (Text.ofInt n) .int = .ok (.int n) := by
      rw [scalarValue, integerValue_ofInt legible]
      rfl
    refine ⟨(), s.mean id (.plain (.int n)), meet_scalar met progress.graph shown rfl value, ?_, keeps _,
      progress.met inside⟩
    refine progress.mean inside (List.Subset.refl _) (fun _ h _ => h) (.inr (.inr ?_))
    rw [shown]
    exact .int (integerValue_ofInt legible)
  | .list _ | .map _ =>
    rw [stands.tag] at collection
    exact absurd rfl collection

/-- Meeting the nodes of several documents. -/
theorem fills_items {ids : List NodeId} {items : List Document} (progress : s.Progress g low level)
    (stand : List.Forall₂ (StandsFor g) ids items) (legible : ∀ item ∈ items, item.Legible)
    (above : ∀ i ∈ ids, low ≤ i) :
    Fills g low level (ids.forM meet) s fun _ s' => ∀ i ∈ ids, s'.Met i := by
  refine .forM (fun _ _ _ keeps => keeps _) ?_ progress
  intro i hi s' progress'
  obtain ⟨item, member, stands⟩ := exists_of_forall₂_left stand i hi
  exact fills_meet progress' stands (legible item member) (above i hi)

/-- Meeting the keys and the values of entries. -/
theorem fills_entries {ids : NodeEntries} {entries : List (Text × Document)}
    (progress : s.Progress g low level)
    (stand : List.Forall₂ (fun id entry => g.node id.1 = ⟨.text, .scalar entry.1⟩ ∧
      StandsFor g id.2 entry.2) ids entries)
    (legible : ∀ entry ∈ entries, IsLegible entry.1 ∧ entry.2.Legible)
    (above : ∀ i ∈ ids, low ≤ i.1 ∧ low ≤ i.2) :
    Fills g low level (meetEntries ids) s fun _ s' => ∀ i ∈ ids, s'.Met i.1 ∧ s'.Met i.2 := by
  refine .forM (fun _ _ _ keeps met => ⟨keeps _ met.1, keeps _ met.2⟩) ?_ progress
  intro i hi s' progress'
  obtain ⟨entry, member, key, stands⟩ := exists_of_forall₂_left stand i hi
  have text : StandsFor g i.1 (.text entry.1) := key
  refine .bind (fills_meet progress' text (legible entry member).1 (above i hi).1) ?_
  intro _ s'' progress'' _ met
  have noCollection : ¬(s''.graph.node i.1).tag.isCollection = true := by
    rw [progress''.graph, key]
    exact Bool.false_ne_true
  have value := fills_meet progress'' stands (legible entry member).2 (above i hi).2
  obtain ⟨_, t, run, progress, keeps, metValue⟩ := value
  refine ⟨(), t, ?_, progress, keeps, keeps _ met, metValue⟩
  rw [StateT.run_bind, StateT.run_get, pure_bind]
  simp only [if_neg noCollection]
  exact run

theorem itemsOf_run {ids : List NodeId} (graph : s.graph = g) (shown : g.node id = ⟨.list, .sequence ids⟩) :
    (itemsOf id).run s = .ok (ids, s) := by
  rw [itemsOf, StateT.run_bind, StateT.run_get, pure_bind]
  simp only [graph, shown]
  rfl

/-- The entries of a map with distinct texts as keys are those that it shows. -/
theorem fillEntries_run {ids : NodeEntries} {keys : List Text} (graph : s.graph = g)
    (shown : g.node id = ⟨.map, .mapping ids⟩) (texts : ∀ i ∈ ids, (g.node i.1).tag = .text)
    (run : (meetEntries ids).run s = .ok ((), s'))
    (own : List.Forall₂ (fun id key => s'.keyValue id.1 = .text key) ids keys) (distinct : keys.Nodup) :
    (fillEntries id).run s = .ok (ids, s') := by
  subst graph
  have entries : s.graph.entries id = ids := by rw [Graph.entries, shown]
  have merged : (merge id).run s.graph = .ok ((), s.graph) := merge_run (by rw [shown]) texts
  rw [fillEntries, StateT.run_bind, StateT.run_get, pure_bind]
  simp only [shown]
  rw [StateT.run_bind, StateT.run_get, pure_bind]
  simp only [merged]
  show (meetEntries (s.graph.entries id) >>= fun _ => do
    return (← get).distinct (s.graph.entries id) : Fill NodeEntries).run s = _
  rw [entries, StateT.run_bind, run, ok_bind]
  show Except.ok (s'.distinct ids, s') = _
  rw [Filling.distinct_eq_self own distinct]

/-- Giving a collection the contents that it shows. -/
theorem fills_fill (progress : s.Progress g low level) (collects : Filling.Collects g id)
    (above : low ≤ id + 1) : Fills g low level (fill id) s fun m s' => s'.Settled (g.node id) m := by
  obtain ⟨document, stands, legible, collection⟩ := collects
  match document with
  | .text _ | .int _ =>
    rw [stands.tag] at collection
    cases collection
  | .list items =>
    obtain ⟨ids, shown, later, stand⟩ := stands
    obtain ⟨_, s', run, progress', keeps, met⟩ := fills_items progress (itemsStand_iff.1 stand)
      (Document.allLegible_iff.1 legible) fun i hi => Nat.le_trans above (later i hi)
    refine ⟨.list ids, s', ?_, progress', keeps, ?_⟩
    · rw [fill, StateT.run_bind, StateT.run_get, pure_bind]
      simp only [progress.graph, shown]
      rw [StateT.run_bind, itemsOf_run progress.graph shown, ok_bind, StateT.run_bind, run]
      rfl
    · rw [shown]
      exact .list met
  | .map entries =>
    obtain ⟨ids, shown, later, stand⟩ := stands
    have pairs := entriesStand_iff.1 stand
    have legibleEntries : ∀ entry ∈ entries, IsLegible entry.1 ∧ entry.2.Legible := fun entry he =>
      ⟨(Document.entriesLegible_iff.1 legible.2 entry he).1.1,
        (Document.entriesLegible_iff.1 legible.2 entry he).2⟩
    obtain ⟨_, s', run, progress', keeps, met⟩ := fills_entries progress pairs legibleEntries
      fun i hi => ⟨Nat.le_trans above (later i hi).1, Nat.le_trans above (later i hi).2⟩
    have keys : List.Forall₂ (fun id key => s'.keyValue id.1 = .text key) ids (entries.map Prod.fst) := by
      rw [List.forall₂_map_right_iff]
      exact forall₂_imp_of_mem pairs fun i hi _ _ stands => progress'.keyValue stands.1 (met i hi).1
    have texts : ∀ i ∈ ids, (g.node i.1).tag = .text := by
      intro i hi
      obtain ⟨entry, -, key, -⟩ := exists_of_forall₂_left pairs i hi
      rw [key]
    refine ⟨.map ids, s', ?_, progress', keeps, ?_⟩
    · rw [fill, StateT.run_bind, StateT.run_get, pure_bind]
      simp only [progress.graph, shown]
      rw [StateT.run_bind, fillEntries_run progress.graph shown texts run keys legible.1]
      rfl
    · rw [shown]
      exact .map met

/-! ## Levels -/

/-- A level is filled, one collection after the other. -/
theorem fills_level (progress : s.Progress g low level) (above : ∀ id ∈ level, low ≤ id + 1) :
    Fills g low [] (level.forM fun id => do
      let meaning ← fill id
      modify fun s => s.mean id meaning) s fun _ _ => True := by
  induction level generalizing s with
  | nil => exact ⟨(), s, rfl, progress, fun _ h => h, trivial⟩
  | cons id rest ih =>
    obtain ⟨own, others⟩ := List.forall_mem_cons.1 above
    have collects := progress.inLevel id List.mem_cons_self
    have inside := collects.lt_size
    obtain ⟨m, s', run, progress', keeps, settled⟩ := fills_fill progress collects own
    have met : ∀ other, s'.Met other → (s'.mean id m).Met other := fun other h =>
      h.mean (progress'.size ▸ inside)
    have filled : (s'.mean id m).Progress g low rest := by
      refine progress'.mean inside (List.subset_cons_self id rest) ?_ (.inr (.inr (settled.mono met)))
      exact fun i hi apart => (List.mem_cons.1 hi).resolve_left apart
    obtain ⟨_, s'', run', progress'', keeps', -⟩ := ih filled others
    refine ⟨(), s'', ?_, progress'', fun other h => keeps' other (met other (keeps other h)), trivial⟩
    show ((fill id >>= fun meaning => modify fun s => s.mean id meaning) >>=
      fun _ => rest.forM _ : Fill Unit).run s = _
    rw [StateT.run_bind, StateT.run_bind, run, ok_bind]
    exact run'

/-- After as many levels as there are nodes nothing waits. -/
theorem fills_levels (fuel : Nat) (enough : g.size ≤ low + fuel) (progress : s.Progress g low []) :
    ∃ s' low', (fillLevels fuel).run s = .ok ((), s') ∧ s'.Progress g low' [] ∧ s'.waiting = [] ∧
      ∀ id, s.Met id → s'.Met id := by
  induction fuel generalizing s low with
  | zero =>
    refine ⟨s, low, rfl, progress, ?_, fun _ h => h⟩
    rw [List.eq_nil_iff_forall_not_mem]
    intro id waits
    obtain ⟨above, collects⟩ := progress.later id waits
    exact absurd (Nat.lt_of_lt_of_le collects.lt_size (Nat.le_trans enough above)) (Nat.lt_irrefl id)
  | succ fuel ih =>
    by_cases none : s.waiting = []
    · refine ⟨s, low, ?_, progress, none, fun _ h => h⟩
      rw [fillLevels, StateT.run_bind, StateT.run_get, pure_bind]
      simp only [none, List.reverse_nil, List.isEmpty_nil, if_true]
      rfl
    · -- All that wait make up the level; what it brings up comes behind them.
      have started : ({ s with waiting := [] } : Filling).Progress g (low + 1) s.waiting.reverse :=
        { graph := progress.graph
          size := progress.size
          inLevel := fun id hi => (progress.later id (List.mem_reverse.1 hi)).2
          later := List.forall_mem_nil _
          settled := fun id m found => by
            rcases progress.settled id m found with member | waits | settled
            · cases member
            · exact .inl (List.mem_reverse.2 waits)
            · exact .inr (.inr (settled.mono fun _ met => met)) }
      have above : ∀ id ∈ s.waiting.reverse, low + 1 ≤ id + 1 := fun id hi =>
        Nat.succ_le_succ (progress.later id (List.mem_reverse.1 hi)).1
      obtain ⟨_, s', run, progress', keeps, -⟩ := fills_level started above
      obtain ⟨s'', low', run', progress'', ended, keeps'⟩ := ih (by omega) progress'
      refine ⟨s'', low', ?_, progress'', ended, fun id met => keeps' id (keeps id met)⟩
      have some : s.waiting.reverse.isEmpty = false := by simpa using none
      rw [fillLevels, StateT.run_bind, StateT.run_get, pure_bind]
      simp only [some, Bool.false_eq_true, if_false]
      show (s.waiting.reverse.forM _ >>= fun _ => fillLevels fuel : Fill Unit).run { s with waiting := [] } = _
      rw [StateT.run_bind, run, ok_bind]
      exact run'

/-- What the nodes of a document stand for is found. -/
theorem meanings_run {root : NodeId} {document : Document} (stands : StandsFor g root document)
    (legible : document.Legible) : ∃ s, meanings root g = .ok s ∧ s.Met root ∧
      ∀ id m, s.found id = some m → s.Settled (g.node id) m := by
  have started : (Filling.start g).Progress g 0 [] :=
    { graph := rfl
      size := Array.size_replicate
      inLevel := List.forall_mem_nil _
      later := List.forall_mem_nil _
      settled := fun id m found => by
        rw [Filling.found_eq, Filling.start, Array.getElem?_replicate] at found
        split at found <;> cases found }
  obtain ⟨_, s, run, progress, -, met⟩ := fills_meet started stands legible (Nat.zero_le root)
  obtain ⟨s', low, run', progress', ended, keeps⟩ := fills_levels (g.size + 1) (by omega) progress
  refine ⟨s', ?_, keeps root met, ?_⟩
  · show ((meet root >>= fun _ => fillLevels (g.size + 1) : Fill Unit).run (.start g) >>= fun filled =>
      Except.ok filled.2) = _
    rw [StateT.run_bind, run, ok_bind, run']
    rfl
  · intro id m found
    rcases progress'.settled id m found with member | waits | settled
    · cases member
    · rw [ended] at waits
      cases waits
    · exact settled

end FixedExtract.Yaml
