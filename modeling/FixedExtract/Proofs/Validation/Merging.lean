import FixedExtract.Proofs.Validation.Single
import Mathlib.Data.List.Induction
/-!
# Merging summaries

It makes no difference in which order summaries that stand in a row are merged two by two. So a batch may be cut
into parts, each merged by itself, and the summary of the parts is that of the whole batch, the moment of
validation aside. The order of the fields is that of their first appearance, however the batch is cut.
-/

namespace FixedExtract

/-! ## Results of fields -/

namespace FieldResults

instance (results : FieldResults) : Decidable results.Distinct :=
  inferInstanceAs (Decidable (results.map Prod.fst).Nodup)

/-- Results that come for a field one after the other are joined. -/
theorem add_add (field : Text) (first second : List FieldResult) (all : FieldResults) :
    add field second (add field first all) = add field (first ++ second) all := by
  induction all with
  | nil =>
    show add field second [(field, first)] = [(field, first ++ second)]
    rw [add, if_pos rfl]
  | cons entry rest ih =>
    obtain ⟨name, before⟩ := entry
    by_cases same : name = field
    · rw [add, if_pos same, add, if_pos same, add, if_pos same, List.append_assoc]
    · rw [add, if_neg same, add, if_neg same, add, if_neg same, ih]

/-- Results for a field that is there may be added before or after those of another field. -/
theorem add_comm {field name : Text} (other : name ≠ field) {all : FieldResults}
    (old : field ∈ all.map Prod.fst) (results more : List FieldResult) :
    add name more (add field results all) = add field results (add name more all) := by
  induction all with
  | nil => cases old
  | cons entry rest ih =>
    obtain ⟨key, before⟩ := entry
    by_cases here : key = field
    · have elsewhere : key ≠ name := fun same => other (same.symm.trans here)
      rw [add, if_pos here, add, if_neg elsewhere, add, if_neg elsewhere, add, if_pos here]
    · have later : field ∈ rest.map Prod.fst :=
        (List.mem_cons.1 old).resolve_left fun same => here same.symm
      by_cases same : key = name
      · rw [add, if_neg here, add, if_pos same, add, if_pos same, add, if_neg here]
      · rw [add, if_neg here, add, if_neg same, add, if_neg same, add, if_neg here, ih later]

theorem mem_add (field : Text) (results : List FieldResult) (all : FieldResults) :
    field ∈ (add field results all).map Prod.fst := by
  by_cases old : field ∈ all.map Prod.fst
  · rw [fields_add_of_mem old]
    exact old
  · rw [add_of_notMem old, List.map_append]
    exact List.mem_append_right _ (List.mem_singleton_self field)

theorem mem_add_of_mem {field name : Text} {all : FieldResults} (old : field ∈ all.map Prod.fst)
    (results : List FieldResult) : field ∈ (add name results all).map Prod.fst := by
  by_cases there : name ∈ all.map Prod.fst
  · rw [fields_add_of_mem there]
    exact old
  · rw [add_of_notMem there, List.map_append]
    exact List.mem_append_left _ old

/-- Other fields may be merged in before or after more results of a field that is there. -/
theorem merge_add_left {field : Text} {b : FieldResults} (other : field ∉ b.map Prod.fst)
    (results : List FieldResult) {a : FieldResults} (old : field ∈ a.map Prod.fst) :
    merge (add field results a) b = add field results (merge a b) := by
  induction b generalizing a with
  | nil => rfl
  | cons entry rest ih =>
    obtain ⟨name, more⟩ := entry
    rw [List.map_cons, List.mem_cons, not_or] at other
    rw [merge, List.foldl_cons, add_comm (Ne.symm other.1) old, ← merge,
      ih other.2 (mem_add_of_mem old more)]
    rfl

/-- What is added to the second list is added to the merged one. -/
theorem merge_add_right (field : Text) (results : List FieldResult) {b : FieldResults}
    (distinct : b.Distinct) (a : FieldResults) :
    merge a (add field results b) = add field results (merge a b) := by
  induction b generalizing a with
  | nil => rfl
  | cons entry rest ih =>
    obtain ⟨name, before⟩ := entry
    rw [Distinct, List.map_cons, List.nodup_cons] at distinct
    by_cases same : name = field
    · subst same
      rw [add, if_pos rfl, merge, List.foldl_cons, ← add_add, ← merge,
        merge_add_left distinct.1 results (mem_add name before a)]
      rfl
    · rw [add, if_neg same, merge, List.foldl_cons, ← merge, ih distinct.2]
      rfl

theorem Distinct.merge {a : FieldResults} (distinct : a.Distinct) (b : FieldResults) :
    (FieldResults.merge a b).Distinct := by
  induction b generalizing a with
  | nil => exact distinct
  | cons entry rest ih => exact ih (distinct.add entry.1 entry.2)

/-- The fields of three lists come in the order of their first appearance, and the results of each of them in
the order of the lists, whichever two lists are merged first. -/
theorem merge_assoc (a : FieldResults) {b : FieldResults} (distinct : b.Distinct) (c : FieldResults) :
    merge (merge a b) c = merge a (merge b c) := by
  induction c generalizing b with
  | nil => rfl
  | cons entry rest ih =>
    calc merge (merge a b) (entry :: rest)
        = merge (add entry.1 entry.2 (merge a b)) rest := rfl
      _ = merge (merge a (add entry.1 entry.2 b)) rest := by rw [merge_add_right _ _ distinct]
      _ = merge a (merge (add entry.1 entry.2 b) rest) := ih (distinct.add entry.1 entry.2)
      _ = merge a (merge b (entry :: rest)) := rfl

end FieldResults

/-! ## Summaries -/

namespace Summary

theorem mergeBatchId_assoc (a b c : Option Text) :
    mergeBatchId (mergeBatchId a b) c = mergeBatchId a (mergeBatchId b c) := by
  cases a with
  | none => rfl
  | some id =>
    by_cases empty : id.isEmpty = true
    · rw [mergeBatchId, if_pos empty, mergeBatchId, if_pos empty]
    · rw [mergeBatchId, if_neg empty, mergeBatchId, if_neg empty, mergeBatchId, if_neg empty]

/-- Of three summaries in a row any two neighbours may be merged first. -/
theorem merge_merge (a : Summary) {b : Summary} (distinct : b.fieldResults.Distinct) (c : Summary) :
    (a.merge b).merge c = a.merge (b.merge c) := by
  simp only [merge, FieldResults.merge_assoc a.fieldResults distinct c.fieldResults, mergeBatchId_assoc,
    Int.add_assoc, Nat.add_assoc, Bool.or_assoc, List.append_assoc, Int.max_assoc]

/-- The summary without its moment of validation. -/
def undated (s : Summary) : Summary := s.restamp s.batchId 0

theorem undated_merge (a b : Summary) : (a.merge b).undated = a.undated.merge b.undated := rfl

theorem undated_foldl_merge (s : Summary) (parts : List Summary) :
    (parts.foldl merge s).undated = (parts.map undated).foldl merge s.undated := by
  induction parts generalizing s with
  | nil => rfl
  | cons part rest ih => rw [List.foldl_cons, ih, undated_merge, List.map_cons, List.foldl_cons]

/-- A summary as it comes about: no field has two places in it, and its batch has a name unless it has none
to have. -/
structure Proper (s : Summary) : Prop where
  distinct : s.fieldResults.Distinct
  named : s.batchId ≠ some []

theorem mergeBatchId_none {id : Option Text} (named : id ≠ some []) : mergeBatchId id none = id := by
  cases id with
  | none => rfl
  | some name =>
    have nonEmpty : name.isEmpty = false := by
      rw [List.isEmpty_eq_false_iff]
      rintro rfl
      exact named rfl
    simp only [mergeBatchId, nonEmpty, Bool.false_eq_true, if_false]

theorem mergeBatchId_ne {a b : Option Text} (ha : a ≠ some []) (hb : b ≠ some []) :
    mergeBatchId a b ≠ some [] := by
  cases a with
  | none => exact hb
  | some name =>
    rw [mergeBatchId]
    split
    · exact hb
    · exact ha

theorem Proper.merge {a b : Summary} (ha : a.Proper) (hb : b.Proper) : (a.merge b).Proper :=
  ⟨ha.distinct.merge b.fieldResults, mergeBatchId_ne ha.named hb.named⟩

theorem proper_blank (totalFields : Int) (moment : Int) : (blank totalFields none moment).Proper :=
  ⟨List.nodup_nil, by simp [blank]⟩

theorem Proper.foldl_merge {s : Summary} (hs : s.Proper) {parts : List Summary}
    (hp : ∀ part ∈ parts, part.Proper) : (parts.foldl Summary.merge s).Proper := by
  induction parts generalizing s with
  | nil => exact hs
  | cons part rest ih =>
    exact ih (hs.merge (hp part List.mem_cons_self)) fun other ho => hp other (List.mem_cons_of_mem part ho)

theorem proper_mergeAll (moment : Int) {parts : List Summary} (hp : ∀ part ∈ parts, part.Proper) :
    (mergeAll moment parts).Proper :=
  (proper_blank 0 moment).foldl_merge hp

/-- Nothing comes of merging with a summary that has just been made, but for the moment. -/
theorem undated_merge_blank {s : Summary} (hs : s.Proper) (moment : Int) :
    (s.merge (blank 0 none moment)).undated = s.undated := by
  simp [undated, merge, blank, restamp, FieldResults.merge, mergeBatchId_none hs.named]

/-- Summaries may be merged among themselves before they are merged into another. -/
theorem undated_foldl_eq_merge {s : Summary} (hs : s.Proper) (moment : Int) {parts : List Summary}
    (hp : ∀ part ∈ parts, part.Proper) :
    (parts.foldl merge s).undated = (s.merge (mergeAll moment parts)).undated := by
  -- The last summary is merged last on both sides, so the induction takes summaries from the end.
  induction parts using List.reverseRecOn with
  | nil => exact (undated_merge_blank hs moment).symm
  | append_singleton front last ih =>
    have hf : ∀ part ∈ front, part.Proper := fun part h => hp part (List.mem_append_left _ h)
    calc ((front ++ [last]).foldl merge s).undated
        = (front.foldl merge s).undated.merge last.undated := by
          rw [List.foldl_append, List.foldl_cons, List.foldl_nil, undated_merge]
      _ = ((s.merge (mergeAll moment front)).merge last).undated := by rw [ih hf, ← undated_merge]
      _ = (s.merge (mergeAll moment (front ++ [last]))).undated := by
          rw [merge_merge s (proper_mergeAll moment hf).distinct last]
          unfold mergeAll
          rw [List.foldl_append, List.foldl_cons, List.foldl_nil]

/-- Merging the summaries of parts, each of which was merged at a moment of its own. -/
theorem undated_foldl_parts {s : Summary} (hs : s.Proper) {parts : List (Int × List Summary)}
    (hp : ∀ part ∈ parts, ∀ s ∈ part.2, s.Proper) :
    ((parts.map fun part => mergeAll part.1 part.2).foldl merge s).undated =
      ((parts.flatMap Prod.snd).foldl merge s).undated := by
  induction parts generalizing s with
  | nil => rfl
  | cons part rest ih =>
    have first := hp part List.mem_cons_self
    have later : ∀ p ∈ rest, ∀ s ∈ p.2, s.Proper := fun p h => hp p (List.mem_cons_of_mem part h)
    have merged := hs.merge (proper_mergeAll part.1 first)
    rw [List.map_cons, List.foldl_cons, ih merged later, List.flatMap_cons, List.foldl_append,
      undated_foldl_merge, ← undated_foldl_eq_merge hs part.1 first, ← undated_foldl_merge]

/-- Merging is associative in every part of a summary. A batch that is cut into parts comes to the same as the
whole batch, whenever the parts and the whole are merged. -/
theorem mergeAll_parts :
    (∀ a b c : Summary, b.fieldResults.Distinct → (a.merge b).merge c = a.merge (b.merge c)) ∧
    ∀ (moment later : Int) (parts : List (Int × List Summary)),
      (∀ part ∈ parts, ∀ s ∈ part.2, s.Proper) →
      (mergeAll moment (parts.map fun part => mergeAll part.1 part.2)).undated =
        (mergeAll later (parts.flatMap Prod.snd)).undated := by
  refine ⟨fun a b c distinct => merge_merge a distinct c, ?_⟩
  intro moment later parts hp
  calc (mergeAll moment (parts.map fun part => mergeAll part.1 part.2)).undated
      = (mergeAll moment (parts.flatMap Prod.snd)).undated :=
        undated_foldl_parts (proper_blank 0 moment) hp
    _ = (mergeAll later (parts.flatMap Prod.snd)).undated := by
        unfold mergeAll
        rw [undated_foldl_merge, undated_foldl_merge]
        rfl

/-- A summary of one field with one result. -/
def ofResult (field : Text) (batchId : Option Text) (moment : Int) (result : FieldResult) : Summary :=
  (blank 1 batchId moment).add field [result]

/-- Three summaries, of which the first and the last are about the same field, in two parts. -/
theorem mergeAll_parts_sharedField :
    let first := ofResult ['A'] none 1 (.success ['A'] none none)
    let second := ofResult ['B'] (some ['b']) 2 (.success ['B'] none none)
    let third := ofResult ['A'] none 3 (.failure ['A'] none none ['!'])
    second.fieldResults.Distinct ∧
      (first.merge second).merge third = first.merge (second.merge third) ∧
      (∀ part ∈ [((4 : Int), [first]), (5, [second, third])], ∀ s ∈ part.2, s.Proper) ∧
      (mergeAll 6 [mergeAll 4 [first], mergeAll 5 [second, third]]).undated =
        (mergeAll 7 [first, second, third]).undated ∧
      (mergeAll 7 [first, second, third]).fieldResults.map Prod.fst = [['A'], ['B']] := by
  intro first second third
  have distinct : second.fieldResults.Distinct := by decide
  have proper : ∀ part ∈ [((4 : Int), [first]), (5, [second, third])], ∀ s ∈ part.2, s.Proper := by
    simp only [List.forall_mem_cons, List.not_mem_nil, false_implies, implies_true, and_true]
    exact ⟨⟨by decide, by decide⟩, ⟨by decide, by decide⟩, ⟨by decide, by decide⟩⟩
  exact ⟨distinct, mergeAll_parts.1 first second third distinct, proper, mergeAll_parts.2 6 7 _ proper,
    by decide⟩

end Summary
end FixedExtract
