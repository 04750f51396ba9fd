import FixedExtract.Proofs.Yaml.Document
import FixedExtract.Proofs.Yaml.Filling
import FixedExtract.Yaml.Reader
/-!
# Unfolding the values of documents

A node that a document stands at has the value of the document, whether it is unfolded now or was kept. A
collection is never inside itself, since what is in it are later nodes.
-/

namespace FixedExtract.Yaml

variable {g : Graph} {s : Filling} {id : NodeId} {value : Value}

/-- The value is that of every document that stands at the node. -/
def ValueAt (g : Graph) (id : NodeId) (value : Value) : Prop :=
  ∀ document, StandsFor g id document → document.Legible → value = document.toValue

/-- The node is that of a document that can be read again. -/
def Represents (g : Graph) (id : NodeId) : Prop := ∃ document, StandsFor g id document ∧ document.Legible

/-- The values that were kept are those of the documents. -/
def Keeps (g : Graph) (kept : Array (Option Value)) : Prop :=
  ∀ id value, kept.getD id none = some value → ValueAt g id value

theorem Keeps.set {kept : Array (Option Value)} (h : Keeps g kept) (own : ValueAt g id value) :
    Keeps g (kept.setIfInBounds id (some value)) := by
  intro other found hf
  rw [Array.getD_eq_getD_getElem?] at hf
  by_cases same : id = other
  · subst same
    rw [Array.getElem?_setIfInBounds_self] at hf
    split at hf
    · cases hf
      exact own
    · cases hf
  · rw [Array.getElem?_setIfInBounds_ne same, ← Array.getD_eq_getD_getElem?] at hf
    exact h other found hf

/-! ## Values at nodes -/

theorem valueAt_text {t : Text} (own : g.node id = ⟨.text, .scalar t⟩) : ValueAt g id (.text t) := by
  intro document stands legible
  have tag := stands.tag
  rw [own] at tag
  match document with
  | .text t' =>
    rw [show g.node id = _ from stands] at own
    cases own
    rfl
  | .int _ | .list _ | .map _ => cases tag

/-- Integers that are read back are told apart by their numerals. -/
theorem valueAt_int {n : Int} (own : g.node id = ⟨.int, .scalar (Text.ofInt n)⟩)
    (read : integerValue (Text.ofInt n) = .ok n) : ValueAt g id (.int n) := by
  intro document stands legible
  have tag := stands.tag
  rw [own] at tag
  match document with
  | .int n' =>
    rw [show g.node id = _ from stands] at own
    have same : Text.ofInt n' = Text.ofInt n := Content.scalar.inj (Node.mk.inj own).2
    rw [← same, integerValue_ofInt legible] at read
    cases read
    rfl
  | .text _ | .list _ | .map _ => cases tag

theorem valueAt_list {ids : List NodeId} {values : List Value} (own : g.node id = ⟨.list, .sequence ids⟩)
    (inside : List.Forall₂ (ValueAt g) ids values) : ValueAt g id (.list values) := by
  intro document stands legible
  have tag := stands.tag
  rw [own] at tag
  match document with
  | .list items =>
    obtain ⟨ids', shown, -, stand⟩ := stands
    rw [own] at shown
    cases shown
    have legible := Document.allLegible_iff.1 legible
    rw [Document.toValue, Document.itemValues_eq_map, eq_map_of_forall₂ inside (itemsStand_iff.1 stand)
      fun i value item member valueAt stands => valueAt item stands (legible item member)]
  | .text _ | .int _ | .map _ => cases tag

theorem valueAt_map {ids : NodeEntries} {pairs : List (Value × Value)}
    (own : g.node id = ⟨.map, .mapping ids⟩)
    (inside : List.Forall₂ (fun i pair => (∀ key, g.node i.1 = ⟨.text, .scalar key⟩ → pair.1 = .text key) ∧
      ValueAt g i.2 pair.2) ids pairs) : ValueAt g id (.map pairs) := by
  intro document stands legible
  have tag := stands.tag
  rw [own] at tag
  match document with
  | .map entries =>
    obtain ⟨ids', shown, -, stand⟩ := stands
    rw [own] at shown
    cases shown
    have legible := Document.entriesLegible_iff.1 legible.2
    rw [Document.toValue, Document.entryValues_eq_map, eq_map_of_forall₂ inside (entriesStand_iff.1 stand)]
    intro i pair entry member valueAt stands
    exact Prod.ext (valueAt.1 _ stands.1) (valueAt.2 _ stands.2 (legible entry member).2)
  | .text _ | .int _ | .list _ => cases tag

/-! ## Unfolding -/

/-- Unfolding gives a value without labels, for which `P` holds. -/
def Unfolds (g : Graph) (x : Unfold Unfolded) (kept : Array (Option Value)) (P : Value → Prop) : Prop :=
  ∃ value kept', x.run kept = (⟨value, []⟩, kept') ∧ Keeps g kept' ∧ P value

/-- Values that hold no labels. -/
def unlabelled (values : List Value) : List Unfolded := values.map fun value => ⟨value, []⟩

theorem map_value_unlabelled (values : List Value) : (unlabelled values).map Unfolded.value = values := by
  rw [unlabelled, List.map_map]
  exact List.map_id values

theorem labelsOf_unlabelled (values : List Value) : Unfolded.labelsOf (unlabelled values) = [] := by
  have none : (unlabelled values).flatMap Unfolded.labels = [] := by simp [unlabelled]
  rw [Unfolded.labelsOf, none]
  rfl

/-- Unfolding several nodes. -/
theorem unfolds_mapM {α : Type} {list : List α} {part : α → Unfold Unfolded} {R : α → Value → Prop}
    (parts : ∀ a ∈ list, ∀ kept, Keeps g kept → Unfolds g (part a) kept (R a))
    {kept : Array (Option Value)} (keeps : Keeps g kept) :
    ∃ values kept', (list.mapM part).run kept = (unlabelled values, kept') ∧
      Keeps g kept' ∧ List.Forall₂ R list values := by
  induction list generalizing kept with
  | nil => exact ⟨[], kept, rfl, keeps, .nil⟩
  | cons a rest ih =>
    obtain ⟨value, kept', run, keeps', own⟩ := parts a List.mem_cons_self kept keeps
    obtain ⟨values, kept'', run', keeps'', others⟩ :=
      ih (fun b hb => parts b (List.mem_cons_of_mem a hb)) keeps'
    refine ⟨value :: values, kept'', ?_, keeps'', .cons own others⟩
    rw [List.mapM_cons, StateT.run_bind, run]
    show ((rest.mapM part >>= fun others => return ⟨value, []⟩ :: others : Unfold (List Unfolded)).run kept') = _
    rw [StateT.run_bind, run']
    rfl

/-- The values of entries stand beside their keys. -/
theorem forall₂_pairs {ids : NodeEntries} {values : List Value} (inside : List.Forall₂ (fun i => ValueAt g i.2)
    ids values) (keys : ∀ i ∈ ids, ∀ key, g.node i.1 = ⟨.text, .scalar key⟩ → s.keyValue i.1 = .text key) :
    List.Forall₂ (fun i pair => (∀ key, g.node i.1 = ⟨.text, .scalar key⟩ → pair.1 = .text key) ∧
      ValueAt g i.2 pair.2) ids (List.zipWith (fun i value => (s.keyValue i.1, value)) ids values) := by
  induction inside with
  | nil => exact .nil
  | cons own _ ih =>
    obtain ⟨first, others⟩ := List.forall_mem_cons.1 keys
    exact .cons ⟨first, own⟩ (ih others)

/-- A collection without labels is kept. -/
theorem keep_run (collection : Value) (kept : Array (Option Value)) :
    (keep id collection []).run kept = (⟨collection, []⟩, kept.setIfInBounds id (some collection)) := rfl

/-- A list is unfolded item by item, and kept. -/
theorem unfolds_list {ids : List NodeId} {part : NodeId → Unfold Unfolded} {kept : Array (Option Value)}
    (own : g.node id = ⟨.list, .sequence ids⟩) (keeps : Keeps g kept)
    (parts : ∀ i ∈ ids, ∀ kept, Keeps g kept → Unfolds g (part i) kept (ValueAt g i)) :
    Unfolds g (ids.mapM part >>= fun parts =>
      keep id (.list (parts.map Unfolded.value)) (Unfolded.labelsOf parts)) kept (ValueAt g id) := by
  obtain ⟨values, kept', run, keeps', inside⟩ := unfolds_mapM parts keeps
  have value := valueAt_list own inside
  refine ⟨.list values, kept'.setIfInBounds id (some (.list values)), ?_, keeps'.set value, value⟩
  rw [StateT.run_bind, run]
  show (keep id (.list ((unlabelled values).map Unfolded.value))
    (Unfolded.labelsOf (unlabelled values))).run kept' = _
  rw [labelsOf_unlabelled, map_value_unlabelled, keep_run]

/-- A map is unfolded entry by entry, and kept. -/
theorem unfolds_map {ids : NodeEntries} {part : NodeId × NodeId → Unfold Unfolded} {kept : Array (Option Value)}
    (own : g.node id = ⟨.map, .mapping ids⟩) (keeps : Keeps g kept)
    (keys : ∀ i ∈ ids, ∀ key, g.node i.1 = ⟨.text, .scalar key⟩ → s.keyValue i.1 = .text key)
    (parts : ∀ i ∈ ids, ∀ kept, Keeps g kept → Unfolds g (part i) kept (ValueAt g i.2)) :
    Unfolds g (ids.mapM part >>= fun parts => keep id
      (.map (List.zipWith (fun entry part => (s.keyValue entry.1, part.value)) ids parts))
      (Unfolded.labelsOf parts)) kept (ValueAt g id) := by
  obtain ⟨values, kept', run, keeps', inside⟩ := unfolds_mapM parts keeps
  have value := valueAt_map own (forall₂_pairs inside keys)
  refine ⟨_, kept'.setIfInBounds id (some _), ?_, keeps'.set value, value⟩
  rw [StateT.run_bind, run]
  show (keep id (.map (List.zipWith (fun entry part => (s.keyValue entry.1, part.value)) ids
    (unlabelled values))) (Unfolded.labelsOf (unlabelled values))).run kept' = _
  rw [labelsOf_unlabelled, keep_run, unlabelled, List.zipWith_map_right]

theorem Represents.lt_size {id : Nat} (h : Represents g id) : id < g.size := by
  obtain ⟨document, stands, -⟩ := h
  exact stands.lt_size

/-- What is in a list are later nodes, which documents stand at as well. -/
theorem Represents.items {ids : List NodeId} (h : Represents g id) (own : g.node id = ⟨.list, .sequence ids⟩) :
    ∀ i ∈ ids, id < i ∧ Represents g i := by
  obtain ⟨document, stands, legible⟩ := h
  have tag := stands.tag
  rw [own] at tag
  match document with
  | .list items =>
    obtain ⟨ids', shown, later, stand⟩ := stands
    rw [own] at shown
    cases shown
    intro i hi
    obtain ⟨item, member, stands⟩ := exists_of_forall₂_left (itemsStand_iff.1 stand) i hi
    exact ⟨later i hi, item, stands, Document.allLegible_iff.1 legible item member⟩
  | .text _ | .int _ | .map _ => cases tag

theorem Represents.entries {ids : NodeEntries} (h : Represents g id)
    (own : g.node id = ⟨.map, .mapping ids⟩) : ∀ i ∈ ids, (∃ key, g.node i.1 = ⟨.text, .scalar key⟩) ∧
      id < i.2 ∧ Represents g i.2 := by
  obtain ⟨document, stands, legible⟩ := h
  have tag := stands.tag
  rw [own] at tag
  match document with
  | .map entries =>
    obtain ⟨ids', shown, later, stand⟩ := stands
    rw [own] at shown
    cases shown
    intro i hi
    obtain ⟨entry, member, key, stands⟩ := exists_of_forall₂_left (entriesStand_iff.1 stand) i hi
    exact ⟨⟨entry.1, key⟩, (later i hi).2, entry.2, stands,
      (Document.entriesLegible_iff.1 legible.2 entry member).2⟩
  | .text _ | .int _ | .list _ => cases tag

/-- Once all collections are filled, the node of a document is unfolded to its value. -/
theorem unfolds_node (settled : ∀ id m, s.found id = some m → s.Settled (g.node id) m) {fuel : Nat}
    {around : List NodeId} {id : Nat} {kept : Array (Option Value)} (enough : g.size < fuel + id)
    (outside : ∀ a ∈ around, a < id) (represents : Represents g id) (met : s.Met id) (keeps : Keeps g kept) :
    Unfolds g (unfold s fuel around id) kept (ValueAt g id) := by
  induction fuel generalizing around id kept with
  | zero =>
    have inside := represents.lt_size
    omega
  | succ fuel ih =>
    have noRing : around.elem id = false := by
      rw [Bool.eq_false_iff, ne_eq, List.elem_iff]
      exact fun member => Nat.lt_irrefl id (outside id member)
    have part : ∀ i : Nat, id < i → Represents g i → s.Met i → ∀ kept, Keeps g kept →
        Unfolds g (unfold s fuel (id :: around) i) kept (ValueAt g i) := by
      intro i later represents met kept keeps
      refine ih (by omega) ?_ represents met keeps
      exact List.forall_mem_cons.2 ⟨later, fun a ha => Nat.lt_trans (outside a ha) later⟩
    unfold Unfolds
    rw [unfold]
    simp only [noRing, Bool.false_eq_true, if_false]
    rw [StateT.run_bind, StateT.run_get, pure_bind]
    dsimp only
    -- A value that was kept is taken; otherwise the meaning of the node says what is unfolded.
    cases known : kept.getD id none with
    | some value => exact ⟨value, kept, rfl, keeps, keeps id value known⟩
    | none =>
      obtain ⟨m, found⟩ := Option.isSome_iff_exists.1 met
      have meaning := Filling.meaning_of_found found
      have shows := settled id m found
      rw [meaning]
      generalize own : g.node id = node at shows
      cases shows with
      | text t => exact ⟨.text t, kept, rfl, keeps, valueAt_text own⟩
      | int read => exact ⟨_, kept, rfl, keeps, valueAt_int own read⟩
      | @list ids childrenMet =>
        have children := represents.items own
        exact unfolds_list own keeps fun i hi =>
          part i (children i hi).1 (children i hi).2 (childrenMet i hi)
      | @map ids childrenMet =>
        have children := represents.entries own
        have keys : ∀ i ∈ ids, ∀ key, g.node i.1 = ⟨.text, .scalar key⟩ → s.keyValue i.1 = .text key := by
          intro i hi key own
          obtain ⟨m, found⟩ := Option.isSome_iff_exists.1 (childrenMet i hi).1
          exact (own ▸ settled i.1 m found).keyValue found
        exact unfolds_map own keeps keys fun i hi =>
          part i.2 (children i hi).2.1 (children i hi).2.2 (childrenMet i hi).2

/-- The value of the node that a document stands at is the value of the document. -/
theorem valueOf_run {root : NodeId} {document : Document} (stands : StandsFor g root document)
    (legible : document.Legible) : valueOf root g = .ok document.toValue := by
  obtain ⟨s, run, met, settled⟩ := meanings_run stands legible
  have nothing : Keeps g (Array.replicate g.size none) := by
    intro id value kept
    rw [Array.getD_eq_getD_getElem?, Array.getElem?_replicate] at kept
    split at kept <;> cases kept
  have enough : g.size < g.size + 1 + root := by omega
  obtain ⟨value, kept, unfolded, -, valueAt⟩ := unfolds_node settled enough
    (List.forall_mem_nil _) ⟨document, stands, legible⟩ met nothing
  rw [valueOf, run, ok_bind, ← valueAt document stands legible]
  simp only [unfolded]
  rfl

end FixedExtract.Yaml
