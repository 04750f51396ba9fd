import FixedExtract.Proofs.Definition.Accepted
import FixedExtract.Proofs.Layout.Placement
/-!
# The order of mappings

A definition may declare its mappings in any order. What the check asks of them does not depend on it, and an
accepted definition has no position twice, so the positions alone decide where the fields of a line stand. The
main statement is that the mappings of an accepted definition can be put in another order without a change to
any line.
-/

namespace FixedExtract

/-! ## Layouts -/

namespace Layout

variable {config other : Config}

/-- Without a position that is used twice, there is one order of the mappings by position. -/
theorem ordered_eq_of_perm (perm : config.mappings.Perm other.mappings)
    (distinct : (config.mappings.map Mapping.position).Nodup) : config.ordered = other.ordered := by
  have same : config.ordered.Perm other.ordered :=
    ((ordered_perm config).trans perm).trans (ordered_perm other).symm
  have alike : ∀ a b, a ∈ config.ordered → b ∈ other.ordered → a.position ≤ b.position →
      b.position ≤ a.position → a = b := by
    intro a b ha hb hab hba
    rw [mem_ordered_iff] at ha
    rw [mem_ordered_iff, ← perm.mem_iff] at hb
    exact List.inj_on_of_nodup_map distinct ha hb (Nat.le_antisymm hab hba)
  exact List.Perm.eq_of_pairwise alike (inOrder_ordered config).ascending
    (inOrder_ordered other).ascending same

/-- A line depends on the mappings in their order by position, and on nothing else of the layout. -/
theorem renderLine_eq_of_ordered_eq (same : config.ordered = other.ordered) (record : Record)
    (number : Nat) : renderLine other record number = renderLine config record number := by
  rw [renderLine, renderLine, same]

end Layout

/-- A traversal of the same elements in another order has the same results in another order. -/
theorem mapM_perm {ε α β : Type} {f : α → Except ε β} {list others : List α} {results : List β}
    (h : list.mapM f = .ok results) (perm : list.Perm others) :
    ∃ results', others.mapM f = .ok results' ∧ results.Perm results' := by
  obtain ⟨results', beside, permuted⟩ := List.perm_comp_forall₂ perm.symm (mapM_eq_ok_iff.1 h)
  exact ⟨results', mapM_eq_ok_iff.2 beside, permuted.symm⟩

namespace Definition

/-! ## Drafts -/

section
variable {maximum : Int} {draft : ConfigDraft} {mappings : List MappingDraft}

/-- Nothing that makes a draft well-formed depends on the order of its mappings. -/
theorem ConfigDraft.WellFormed.perm (h : draft.WellFormed maximum)
    (perm : draft.mappings.Perm mappings) :
    ({ draft with mappings := mappings } : ConfigDraft).WellFormed maximum := by
  constructor
  · exact h.sourceSystem
  · exact h.jobName
  · rintro rfl
    exact h.nonEmpty perm.eq_nil
  · intro m hm
    exact h.mappings m (perm.mem_iff.2 hm)
  · exact (perm.map _).nodup_iff.1 h.names
  · exact (perm.map _).nodup_iff.1 h.keys
  · exact (perm.map _).nodup_iff.1 h.positions
  · have width := h.width
    rw [(perm.map fun m => m.length.getD 0).sum_eq] at width
    exact width

/-- The layout of a draft has its mappings in the order of the draft. -/
theorem ConfigDraft.toConfig_perm {config : Layout.Config} (h : draft.toConfig = .ok config)
    (perm : draft.mappings.Perm mappings) :
    ∃ other, ({ draft with mappings := mappings } : ConfigDraft).toConfig = .ok other ∧
      config.mappings.Perm other.mappings := by
  obtain ⟨converted, traversed, made⟩ := bind_eq_ok_iff.1 h
  cases made
  obtain ⟨converted', traversed', permuted⟩ := mapM_perm traversed perm
  exact ⟨_, bind_eq_ok_iff.2 ⟨converted', traversed', rfl⟩, permuted⟩

/-- Two drafts that differ in the order of their mappings have layouts with the same lines. -/
theorem ConfigDraft.WellFormed.toConfig_perm (h : draft.WellFormed maximum)
    (perm : draft.mappings.Perm mappings) :
    ∃ config other, draft.toConfig = .ok config ∧
      ({ draft with mappings := mappings } : ConfigDraft).toConfig = .ok other ∧
      config.ordered = other.ordered := by
  obtain ⟨config, converted, sound⟩ := h.toConfig
  obtain ⟨other, converted', permuted⟩ := ConfigDraft.toConfig_perm converted perm
  exact ⟨config, other, converted, converted', Layout.ordered_eq_of_perm permuted sound.positions⟩

end

/-! ## Maps -/

/-- Two values that give the same mappings, perhaps in different orders. -/
def SameMappings (v w : Value) : Prop :=
  v = w ∨ ∃ items others, v.opened = .list items ∧ w.opened = .list others ∧ items.Perm others

/-- An entry stays as it is, but for the order of the mappings if it holds them. -/
def ReorderedEntry (a b : Value × Value) : Prop :=
  a.1 = b.1 ∧ (a.2 = b.2 ∨ namesField [ConfigDraft.mappingsField] a.1 = true ∧ SameMappings a.2 b.2)

/-- Two submissions that differ in the order of the mappings alone. -/
inductive Reordered : Submission → Submission → Prop
  | draft {draft : ConfigDraft} {mappings : List MappingDraft} (perm : draft.mappings.Perm mappings) :
    Reordered (.draft draft) (.draft { draft with mappings := mappings })
  | entries {entries others : Entries} (beside : List.Forall₂ ReorderedEntry entries others) :
    Reordered (.entries entries) (.entries others)

section
variable {entries others : Entries}

theorem SameMappings.null_iff {v w : Value} (h : SameMappings v w) : v = .null ↔ w = .null := by
  rcases h with rfl | ⟨items, others, opened, opened', -⟩
  · rfl
  · constructor
    · rintro rfl
      cases opened
    · rintro rfl
      cases opened'

theorem SameMappings.list {v w : Value} {items : List Value} (h : SameMappings v w)
    (opened : v.opened = .list items) : ∃ others, w.opened = .list others ∧ items.Perm others := by
  rcases h with rfl | ⟨_, others, opened', openedW, perm⟩
  · exact ⟨items, opened, .refl items⟩
  · rw [opened] at opened'
    cases opened'
    exact ⟨others, openedW, perm⟩

/-- A key stands in both maps or in neither, and over the same, but for the order of mappings. -/
theorem get?_of_reordered (beside : List.Forall₂ ReorderedEntry entries others) (key : Text) :
    (entries.get? key = none ∧ others.get? key = none) ∨
      ∃ v w, entries.get? key = some v ∧ others.get? key = some w ∧ SameMappings v w := by
  induction beside with
  | nil => exact .inl ⟨rfl, rfl⟩
  | @cons a b rest rest' first _ ih =>
    obtain ⟨k, v⟩ := a
    obtain ⟨k', w⟩ := b
    obtain ⟨rfl, values⟩ := first
    rw [Entries.get?, Entries.get?]
    split
    · refine .inr ⟨v, w, rfl, rfl, ?_⟩
      rcases values with rfl | ⟨-, same⟩
      · exact .inl rfl
      · exact same
    · exact ih

/-- Apart from the mappings both maps are the same. -/
theorem withoutMappings_eq_of_reordered (beside : List.Forall₂ ReorderedEntry entries others) :
    ConfigDraft.withoutMappings entries = ConfigDraft.withoutMappings others := by
  have dropped : ∀ entries : Entries, ConfigDraft.withoutMappings entries =
      entries.filter fun entry => !namesField [ConfigDraft.mappingsField] entry.1 := by
    intro entries
    rw [ConfigDraft.withoutMappings, Entries.without, Entries.without, List.filter_filter]
    refine List.filter_congr ?_
    intro entry _
    rw [namesField, List.any_cons, List.any_nil, Bool.or_false, Bool.not_or, Bool.and_comm]
  rw [dropped, dropped]
  induction beside with
  | nil => rfl
  | @cons a b rest rest' first _ ih =>
    obtain ⟨k, v⟩ := a
    obtain ⟨k', w⟩ := b
    obtain ⟨rfl, values⟩ := first
    rw [List.filter_cons, List.filter_cons, ih]
    rcases values with rfl | ⟨named, -⟩
    · rfl
    · have left : (!namesField [ConfigDraft.mappingsField] k) = false := by rw [named]; rfl
      rw [if_neg (by simp [left]), if_neg (by simp [left])]

theorem sameMappings_getD (beside : List.Forall₂ ReorderedEntry entries others) (key : Text) :
    SameMappings (entries.getD key) (others.getD key) := by
  rw [Entries.getD, Entries.getD]
  rcases get?_of_reordered beside key with ⟨missing, missing'⟩ | ⟨v, w, found, found', same⟩
  · rw [missing, missing']
    exact .inl rfl
  · rw [found, found']
    exact same

theorem givenMappings_of_ne (given : entries.getD ConfigDraft.mappingsField.camel ≠ .null) :
    givenMappings entries = entries.getD ConfigDraft.mappingsField.camel := by
  unfold givenMappings
  split
  · next null => exact absurd null given
  · rfl

theorem sameMappings_given (beside : List.Forall₂ ReorderedEntry entries others) :
    SameMappings (givenMappings entries) (givenMappings others) := by
  have camel := sameMappings_getD beside ConfigDraft.mappingsField.camel
  by_cases null : entries.getD ConfigDraft.mappingsField.camel = .null
  · rw [givenMappings, givenMappings, null, camel.null_iff.1 null]
    exact sameMappings_getD beside ConfigDraft.mappingsField.snake
  · rw [givenMappings_of_ne null, givenMappings_of_ne (mt camel.null_iff.2 null)]
    exact camel

/-- Null covers the mappings of both maps or of none. -/
theorem covered_iff_of_reordered (beside : List.Forall₂ ReorderedEntry entries others) :
    entries.get? ConfigDraft.mappingsField.camel = some .null ↔
      others.get? ConfigDraft.mappingsField.camel = some .null := by
  rcases get?_of_reordered beside ConfigDraft.mappingsField.camel with
    ⟨missing, missing'⟩ | ⟨v, w, found, found', same⟩
  · rw [missing, missing']
  · rw [found, found', Option.some.injEq, Option.some.injEq, same.null_iff]

theorem readAs_perm {items items' : List Value} {mappings : List MappingDraft}
    (beside : ReadAs items mappings) (perm : items.Perm items') :
    ∃ mappings', ReadAs items' mappings' ∧ mappings.Perm mappings' := by
  obtain ⟨mappings', beside', permuted⟩ := List.perm_comp_forall₂ perm.symm beside
  exact ⟨mappings', beside', permuted.symm⟩

/-- An accepted map whose mappings are reordered is accepted too, and both are loaded with the same fields in
order. -/
theorem load_of_reordered_entries {maximum : Int}
    (accepted : (checkShape maximum (.entries entries)).valid = true)
    (beside : List.Forall₂ ReorderedEntry entries others) :
    (checkShape maximum (.entries others)).valid = true ∧
    ∃ config other, load maximum (.entries entries) = .ok config ∧
      load maximum (.entries others) = .ok other ∧ config.ordered = other.ordered := by
  obtain ⟨rest, items, mappings, readRest, list, read⟩ := read_of_accepted accepted
  obtain ⟨items', list', permItems⟩ := (sameMappings_given beside).list list
  obtain ⟨mappings', read', perm⟩ := readAs_perm read permItems
  have readRest' := readRest
  rw [withoutMappings_eq_of_reordered beside] at readRest'
  -- The check sees a draft with all mappings of either map, also where null covers them.
  have checked : checkShape maximum (.entries entries) =
      checkShape maximum (.draft { rest with mappings := mappings }) := by
    rw [checkShape, checkShape, readSubmission_of_parts readRest (mappingList_of_list list) read]
  have checked' : checkShape maximum (.entries others) =
      checkShape maximum (.draft { rest with mappings := mappings' }) := by
    rw [checkShape, checkShape, readSubmission_of_parts readRest' (mappingList_of_list list') read']
  have wellFormed : ({ rest with mappings := mappings } : ConfigDraft).WellFormed maximum :=
    wellFormed_of_valid (checked ▸ accepted)
  have accepted' : (checkShape maximum (.entries others)).valid = true := by
    rw [checked']
    exact (wellFormed.perm perm).valid
  refine ⟨accepted', ?_⟩
  by_cases covered : entries.get? ConfigDraft.mappingsField.camel = some .null
  · have covered' := (covered_iff_of_reordered beside).1 covered
    rw [load_of_parts accepted readRest (readField_of_covered covered),
      load_of_parts accepted' readRest' (readField_of_covered covered')]
    exact ⟨_, _, rfl, rfl, rfl⟩
  · have uncovered' := mt (covered_iff_of_reordered beside).2 covered
    rw [load_of_parts accepted readRest (readField_of_given list read covered),
      load_of_parts accepted' readRest' (readField_of_given list' read' uncovered')]
    obtain ⟨config, other, converted, converted', ordered⟩ := wellFormed.toConfig_perm perm
    exact ⟨config, other, convert_eq_ok_iff.2 converted, convert_eq_ok_iff.2 converted', ordered⟩

end

/-- When the mappings of an accepted definition are put in another order, it is still accepted, and every
record has the same line: the same text, of the same fields in the same order and with the same warnings. -/
theorem renderLine_of_reordered {maximum : Int} {submission reordered : Submission}
    (accepted : (checkShape maximum submission).valid = true)
    (same : Reordered submission reordered) :
    (checkShape maximum reordered).valid = true ∧
    ∃ config other, load maximum submission = .ok config ∧ load maximum reordered = .ok other ∧
      ∀ record number,
        Layout.renderLine other record number = Layout.renderLine config record number := by
  have loaded : (checkShape maximum reordered).valid = true ∧
      ∃ config other, load maximum submission = .ok config ∧ load maximum reordered = .ok other ∧
        config.ordered = other.ordered := by
    cases same with
    | draft perm =>
      have wellFormed := wellFormed_of_valid accepted
      have accepted' := (wellFormed.perm perm).valid
      obtain ⟨config, other, converted, converted', ordered⟩ := wellFormed.toConfig_perm perm
      exact ⟨accepted', config, other, load_eq_ok_iff.2 ⟨wellFormed, converted⟩,
        load_eq_ok_iff.2 ⟨wellFormed.perm perm, converted'⟩, ordered⟩
    | entries beside => exact load_of_reordered_entries accepted beside
  obtain ⟨accepted', config, other, load, load', ordered⟩ := loaded
  exact ⟨accepted', config, other, load, load', Layout.renderLine_eq_of_ordered_eq ordered⟩

/-! ### Two mappings in both orders -/

/-- A mapping that shows a field of the record in four characters, in front of the mark. -/
def amountEntries : Entries :=
  [(.text "targetFieldName", .text "AMOUNT"), (.text "targetPosition", .int 1), (.text "length", .int 4),
   (.text "transformationType", .text "source"), (.text "sourceField", .text "A")]

/-- A mapping of one character behind it. -/
def starEntries : Entries :=
  [(.text "targetFieldName", .text "STAR"), (.text "targetPosition", .int 2), (.text "length", .int 1),
   (.text "transformationType", .text "constant"), (.text "value", .text ['*'])]

/-- The definition with its mappings in the order of their positions. -/
def ascendingEntries : Entries :=
  markDefinition [(.text "fieldMappings", .list [.map amountEntries, .map starEntries])]

/-- The same definition with its mappings the other way round. -/
def descendingEntries : Entries :=
  markDefinition [(.text "fieldMappings", .list [.map starEntries, .map amountEntries])]

/-- The layouts have their mappings in different orders, and yet the same lines. -/
theorem renderLine_of_reordered_descending :
    (checkShape defaultMaxLength (.entries descendingEntries)).valid = true ∧
      Reordered (.entries descendingEntries) (.entries ascendingEntries) ∧
      (checkShape defaultMaxLength (.entries ascendingEntries)).valid = true ∧
      ∃ config other, load defaultMaxLength (.entries descendingEntries) = .ok config ∧
        load defaultMaxLength (.entries ascendingEntries) = .ok other ∧
        config.mappings.map Layout.Mapping.name = ["STAR".toList, "AMOUNT".toList] ∧
        other.mappings.map Layout.Mapping.name = ["AMOUNT".toList, "STAR".toList] ∧
        ∀ record number,
          Layout.renderLine other record number = Layout.renderLine config record number := by
  have accepted : (checkShape defaultMaxLength (.entries descendingEntries)).valid = true := by
    decide +kernel
  have same : Reordered (.entries descendingEntries) (.entries ascendingEntries) := by
    refine .entries (.cons ⟨rfl, .inl rfl⟩ (.cons ⟨rfl, .inl rfl⟩ (.cons ⟨rfl, .inr ⟨by decide, ?_⟩⟩ .nil)))
    exact .inr ⟨_, _, rfl, rfl, .swap _ _ _⟩
  obtain ⟨accepted', config, other, loaded, loaded', lines⟩ := renderLine_of_reordered accepted same
  refine ⟨accepted, same, accepted', config, other, loaded, loaded', ?_, ?_, lines⟩
  · rw [load, if_pos accepted] at loaded
    cases loaded
    rfl
  · rw [load, if_pos accepted'] at loaded'
    cases loaded'
    rfl

end Definition
end FixedExtract
