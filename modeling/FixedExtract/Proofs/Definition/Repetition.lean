import FixedExtract.Definition.Shape
import Mathlib.Data.List.Nodup
/-!
# Repetitions in a definition

The check of a whole definition looks for positions and names that occur twice, and for different names
with one key. Here is what it means that it finds none.
-/

namespace FixedExtract.Definition

section
variable {α : Type} [BEq α] [LawfulBEq α]

/-- Nothing is repeated exactly when everything occurs once. -/
theorem repeated_eq_nil_iff {values : List α} : repeated values = [] ↔ values.Nodup := by
  rw [repeated, List.filter_eq_nil_iff, List.nodup_iff_count_le_one]
  constructor
  · intro h a
    by_cases ha : a ∈ values
    · have := h a (List.mem_eraseDups.2 ha)
      simp only [decide_eq_true_eq] at this
      omega
    · rw [List.count_eq_zero.2 ha]
      omega
  · intro h a _
    have := h a
    simp only [decide_eq_true_eq]
    omega

/-- Without repetitions, a list has more than one element exactly when it has two that differ. -/
theorem one_lt_length_eraseDups_iff {values : List α} :
    1 < values.eraseDups.length ↔ ∃ a ∈ values, ∃ b ∈ values, a ≠ b := by
  constructor
  · intro h
    match hv : values with
    | [] => simp at h
    | a :: rest =>
      -- What is left when all copies of the first element are dropped holds a different one.
      rw [List.eraseDups_cons, List.length_cons] at h
      have other : (rest.filter fun b => !b == a).eraseDups ≠ [] := by
        intro hnil
        rw [hnil] at h
        simp at h
      obtain ⟨b, hb⟩ := List.exists_mem_of_ne_nil _ other
      rw [List.mem_eraseDups, List.mem_filter] at hb
      refine ⟨a, List.mem_cons_self, b, List.mem_cons_of_mem a hb.1, ?_⟩
      intro same
      simp [same] at hb
  · rintro ⟨a, ha, b, hb, different⟩
    rw [← List.mem_eraseDups] at ha hb
    match h : values.eraseDups with
    | [] => simp [h] at ha
    | [c] =>
      simp only [h, List.mem_singleton] at ha hb
      exact absurd (ha.trans hb.symm) different
    | _ :: _ :: _ => simp

end

/-! ## Keys -/

/-- The names as the check of keys sees them, each beside its key. -/
theorem mem_keyed_iff {names : List Text} {key name : Text} :
    (key, name) ∈ names.map (fun name => (fieldKey name, name)) ↔
      name ∈ names ∧ fieldKey name = key := by
  rw [List.mem_map]
  constructor
  · rintro ⟨n, hn, heq⟩
    cases heq
    exact ⟨hn, rfl⟩
  · rintro ⟨hn, rfl⟩
    exact ⟨name, hn, rfl⟩

/-- A key is shared exactly when two different names have it. -/
theorem one_lt_length_namesOfKey_iff {names : List Text} {key : Text} :
    1 < (namesOfKey (names.map fun name => (fieldKey name, name)) key).length ↔
      ∃ a ∈ names, ∃ b ∈ names, fieldKey a = key ∧ fieldKey b = key ∧ a ≠ b := by
  have member : ∀ a : Text, a ∈ ((names.map fun name => (fieldKey name, name)).filter
      fun entry => entry.1 == key).map Prod.snd ↔ a ∈ names ∧ fieldKey a = key := by
    intro a
    rw [← mem_keyed_iff, List.mem_map]
    constructor
    · rintro ⟨⟨k, n⟩, hmem, rfl⟩
      rw [List.mem_filter, beq_iff_eq] at hmem
      obtain ⟨hmem, rfl⟩ := hmem
      exact hmem
    · intro hmem
      exact ⟨(key, a), List.mem_filter.2 ⟨hmem, beq_iff_eq.2 rfl⟩, rfl⟩
  rw [namesOfKey, one_lt_length_eraseDups_iff]
  constructor
  · rintro ⟨a, ha, b, hb, different⟩
    rw [member] at ha hb
    exact ⟨a, ha.1, b, hb.1, ha.2, hb.2, different⟩
  · rintro ⟨a, ha, b, hb, keyA, keyB, different⟩
    exact ⟨a, (member a).2 ⟨ha, keyA⟩, b, (member b).2 ⟨hb, keyB⟩, different⟩

/-- No key is shared exactly when names with one key are the same. -/
theorem keyCollisions_eq_nil_iff {names : List Text} :
    keyCollisions names = [] ↔ ∀ a ∈ names, ∀ b ∈ names, fieldKey a = fieldKey b → a = b := by
  rw [keyCollisions, List.filterMap_eq_nil_iff]
  simp only [ite_eq_right_iff, reduceCtorEq, imp_false, one_lt_length_namesOfKey_iff]
  constructor
  · intro h a ha b hb same
    by_contra different
    have key : fieldKey a ∈ ((names.map fun name => (fieldKey name, name)).map Prod.fst).eraseDups := by
      rw [List.mem_eraseDups, List.map_map]
      exact List.mem_map.2 ⟨a, ha, rfl⟩
    exact h (fieldKey a) key ⟨a, ha, b, hb, rfl, same.symm, different⟩
  · rintro h key _ ⟨a, ha, b, hb, keyA, keyB, different⟩
    exact different (h a ha b hb (keyA.trans keyB.symm))

end FixedExtract.Definition
