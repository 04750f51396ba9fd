import FixedExtract.Text.Basic
import Mathlib.Data.List.Basic
import Mathlib.Order.Lattice
/-!
# Sorting

Lists are sorted by a key, stably: elements with the same key stay in the order in which they were given. The
order of texts is the lexical one, and a sorted set of texts ascends strictly.
-/

namespace FixedExtract

/-! ## Keys -/

section
variable {α κ : Type} [LinearOrder κ]

/-- The same elements in ascending order of a key, those of one key in the order they were given in. -/
structure SortedBy (key : α → κ) (given sorted : List α) : Prop where
  perm : sorted.Perm given
  ascending : sorted.Pairwise fun a b => key a ≤ key b
  stable : ∀ k, sorted.filter (fun a => key a = k) = given.filter fun a => key a = k

theorem sortedBy_mergeSort (key : α → κ) (list : List α) :
    SortedBy key list (list.mergeSort fun a b => decide (key a ≤ key b)) := by
  have transitive : ∀ a b c : α, decide (key a ≤ key b) = true → decide (key b ≤ key c) = true →
      decide (key a ≤ key c) = true := by
    simp only [decide_eq_true_eq]
    exact fun _ _ _ => le_trans
  have total : ∀ a b : α, (decide (key a ≤ key b) || decide (key b ≤ key a)) = true := by
    simp only [Bool.or_eq_true, decide_eq_true_eq]
    exact fun a b => le_total (key a) (key b)
  refine ⟨List.mergeSort_perm list _, ?_, ?_⟩
  · exact (List.pairwise_mergeSort transitive total list).imp of_decide_eq_true
  · intro k
    -- The elements of one key are in order as they are given, so sorting keeps them as they are.
    have alike : (list.filter fun a => key a = k).Pairwise fun a b => decide (key a ≤ key b) = true := by
      rw [List.pairwise_filter]
      refine List.pairwise_of_forall ?_
      simp only [decide_eq_true_eq]
      exact fun {a b} ha hb => le_of_eq (ha.trans hb.symm)
    have inside := (List.sublist_mergeSort transitive total alike List.filter_sublist).filter
      fun a => decide (key a = k)
    simp only [List.filter_filter, Bool.and_self] at inside
    have counted := ((List.mergeSort_perm list fun a b => decide (key a ≤ key b)).filter
      fun a => decide (key a = k)).length_eq
    exact (inside.eq_of_length counted.symm).symm

/-- What is left out of the given list is left out of the sorted one. -/
theorem SortedBy.filter {key : α → κ} {given sorted : List α} (h : SortedBy key given sorted) (p : α → Bool) :
    SortedBy key (given.filter p) (sorted.filter p) where
  perm := h.perm.filter p
  ascending := h.ascending.filter p
  stable k := by rw [List.filter_comm, h.stable k, List.filter_comm]

/-- Two ascending lists with the same elements of each key, in the same order, are the same list. -/
theorem eq_of_ascending {key : α → κ} {s t : List α} (hs : s.Pairwise fun a b => key a ≤ key b)
    (ht : t.Pairwise fun a b => key a ≤ key b)
    (same : ∀ k, s.filter (fun a => key a = k) = t.filter fun a => key a = k) : s = t := by
  induction s generalizing t with
  | nil =>
    cases t with
    | nil => rfl
    | cons b t => simpa using same (key b)
  | cons a s ih =>
    have mem_iff : ∀ c, c ∈ a :: s ↔ c ∈ t := by
      intro c
      simpa using congrArg (c ∈ ·) (same (key c))
    obtain ⟨firstS, restS⟩ := List.pairwise_cons.1 hs
    cases t with
    | nil => exact absurd ((mem_iff a).1 List.mem_cons_self) List.not_mem_nil
    | cons b t =>
      obtain ⟨firstT, restT⟩ := List.pairwise_cons.1 ht
      -- Each list has the first element of the other, so neither begins with a lower key.
      have alike : key a = key b := by
        refine le_antisymm ?_ ?_
        · rcases List.mem_cons.1 ((mem_iff b).2 List.mem_cons_self) with rfl | later
          · exact le_refl _
          · exact firstS b later
        · rcases List.mem_cons.1 ((mem_iff a).1 List.mem_cons_self) with rfl | later
          · exact le_refl _
          · exact firstT a later
      have first := same (key a)
      rw [List.filter_cons_of_pos (by simp), List.filter_cons_of_pos (by simp [alike])] at first
      obtain ⟨rfl, -⟩ := List.cons.inj first
      refine congrArg (List.cons a) (ih restS restT fun k => ?_)
      have whole := same k
      by_cases here : key a = k
      · rw [List.filter_cons_of_pos (by simpa), List.filter_cons_of_pos (by simpa)] at whole
        exact (List.cons.inj whole).2
      · rwa [List.filter_cons_of_neg (by simpa), List.filter_cons_of_neg (by simpa)] at whole

end

/-! ## Repetitions -/

section
variable {α : Type} [BEq α] [LawfulBEq α]

theorem eraseDups_concat (list : List α) (a : α) :
    (list ++ [a]).eraseDups = if a ∈ list then list.eraseDups else list.eraseDups ++ [a] := by
  rw [List.eraseDups_append, List.removeAll, List.filter_cons, List.filter_nil]
  by_cases old : a ∈ list
  · have dropped : (!list.elem a) = false := by simpa using old
    rw [if_pos old, dropped, if_neg Bool.false_ne_true]
    exact List.append_nil _
  · have kept : (!list.elem a) = true := by simpa using old
    rw [if_neg old, kept, if_pos rfl]
    rfl

/-- What holds of any two elements in order still holds without the repetitions, where no two are the same. -/
theorem pairwise_eraseDups {R : α → α → Prop} {list : List α}
    (h : list.Pairwise R) : list.eraseDups.Pairwise fun a b => R a b ∧ a ≠ b := by
  match list with
  | [] => exact List.Pairwise.nil
  | first :: rest =>
    obtain ⟨before, within⟩ := List.pairwise_cons.1 h
    rw [List.eraseDups_cons, List.pairwise_cons]
    refine ⟨?_, pairwise_eraseDups (within.filter fun b => !b == first)⟩
    intro other member
    rw [List.mem_eraseDups, List.mem_filter, Bool.not_eq_true', beq_eq_false_iff_ne] at member
    exact ⟨before other member.1, Ne.symm member.2⟩
termination_by list.length
decreasing_by
  exact Nat.lt_succ_of_le (List.length_filter_le _ rest)

theorem nodup_eraseDups (list : List α) : list.eraseDups.Nodup := by
  have any : list.Pairwise fun _ _ => True := List.pairwise_of_forall fun _ _ => trivial
  exact (pairwise_eraseDups any).imp And.right

end

namespace Text

/-! ## Texts in order -/

/-- The first text is before the second: it is continued there, or has the lower code point where they differ. -/
def Before (s t : Text) : Prop := List.Lex (fun c d => c.toNat < d.toNat) s t

theorem Before.trans {s t u : Text} (h : Before s t) (h' : Before t u) : Before s u :=
  List.lex_trans Nat.lt_trans h h'

theorem before_trichotomous {s t : Text} (h : ¬ Before s t) (h' : ¬ Before t s) : s = t := by
  have same : ∀ c d : Char, ¬ c.toNat < d.toNat → ¬ d.toNat < c.toNat → c = d :=
    fun c d below above => Char.toNat_inj.1 (by omega)
  exact List.lex_trichotomous same h' h

theorem le_iff {s t : Text} : le s t = true ↔ s = t ∨ Before s t := by
  unfold Before
  induction s generalizing t with
  | nil => cases t <;> simp [le]
  | cons c s ih =>
    cases t with
    | nil => simp [le]
    | cons d t =>
      rw [le, List.cons_lex_cons_iff, List.cons.injEq]
      split
      · rename_i same
        simp [same, ih]
      · rename_i different
        simp [different]

/-- The texts of a sorted set ascend, and no text comes twice. -/
theorem pairwise_sortedSet (texts : List Text) : (sortedSet texts).Pairwise Before := by
  have transitive : ∀ s t u : Text, le s t = true → le t u = true → le s u = true := by
    simp only [le_iff]
    rintro s t u (rfl | below) (rfl | below')
    · exact .inl rfl
    · exact .inr below'
    · exact .inr below
    · exact .inr (below.trans below')
  have total : ∀ s t : Text, (le s t || le t s) = true := by
    simp only [Bool.or_eq_true, le_iff]
    intro s t
    by_cases below : Before s t
    · exact .inl (.inr below)
    by_cases above : Before t s
    · exact .inr (.inr above)
    exact .inl (.inl (before_trichotomous below above))
  refine (pairwise_eraseDups (List.pairwise_mergeSort transitive total texts)).imp ?_
  rintro s t ⟨below, different⟩
  exact (le_iff.1 below).resolve_left different

theorem mem_sortedSet_iff {text : Text} {texts : List Text} : text ∈ sortedSet texts ↔ text ∈ texts := by
  rw [sortedSet, List.mem_eraseDups, List.mem_mergeSort]

end Text
end FixedExtract
