import FixedExtract.Proofs.Rule.Grouping
import FixedExtract.Proofs.Validation.Cache
/-!
# Checks against grouped rules

A check of a field sorts its enabled rules, whether they come from a group, which is sorted already, or in the order in
which they were given. Both sorts are stable, so the rules are taken in the same order either way. What they come to
depends on the cache only through what it holds, and not on the order in which it has come by that.
-/

namespace FixedExtract
namespace PatternCache

/-! ## Caches that hold the same -/

/-- Two caches hold the same under every identifier. -/
structure Agrees (c d : PatternCache) : Prop where
  found : ∀ id, c.find? id = d.find? id
  malformed : ∀ id, id ∈ c.malformed ↔ id ∈ d.malformed

/-- Two outcomes have the same answer, and leave caches that hold the same. -/
structure SameOutcome {α : Type} (a b : α × PatternCache) : Prop where
  answer : a.1 = b.1
  caches : Agrees a.2 b.2

namespace Agrees
variable {c d : PatternCache} (h : Agrees c d)
include h

theorem knows (id : Text) : c.knows id = d.knows id := by
  rw [PatternCache.knows, PatternCache.knows, h.found, Bool.eq_iff_iff, Bool.or_eq_true, Bool.or_eq_true,
    List.elem_iff, List.elem_iff, h.malformed]

/-- Reading a pattern is refused for both caches, or kept in both. -/
theorem compile (id source : Text) :
    (∃ refusal, c.compile id source = .error refusal ∧ d.compile id source = .error refusal) ∨
      ∃ c' d', c.compile id source = .ok c' ∧ d.compile id source = .ok d' ∧ Agrees c' d' := by
  unfold PatternCache.compile
  cases Regex.Pattern.read source with
  | ok pattern =>
    refine .inr ⟨_, _, rfl, rfl, fun other => ?_, h.malformed⟩
    have before : c.compiled.lookup other = d.compiled.lookup other := h.found other
    simp only [find?, lookup_put, before]
  | error fault =>
    cases fault with
    | refused refusal => exact .inl ⟨refusal, rfl, rfl⟩
    | malformed =>
      refine .inr ⟨_, _, rfl, rfl, ?_⟩
      by_cases noted : id ∈ c.malformed
      · rw [if_pos (List.elem_iff.2 noted), if_pos (List.elem_iff.2 ((h.malformed id).1 noted))]
        exact h
      · rw [if_neg (mt List.elem_iff.1 noted), if_neg (mt List.elem_iff.1 (mt (h.malformed id).2 noted))]
        exact ⟨h.found, fun other => by rw [List.mem_append, List.mem_append, h.malformed]⟩

theorem fetch (rule : Rule) : SameOutcome (c.fetch rule) (d.fetch rule) := by
  unfold PatternCache.fetch
  cases rule.pattern? with
  | none => exact ⟨rfl, h⟩
  | some source =>
    dsimp only
    rw [h.knows]
    split
    · exact ⟨congrArg Except.ok (h.found rule.id), h⟩
    · rcases h.compile rule.id source with ⟨refusal, fromC, fromD⟩ | ⟨c', d', fromC, fromD, after⟩
      · rw [fromC, fromD]
        exact ⟨rfl, h⟩
      · rw [fromC, fromD]
        exact ⟨congrArg Except.ok (after.found rule.id), after⟩

variable (lookup : Option ReferenceLookup) (field : Text) (value : Option Text)

theorem check (rule : Rule) : SameOutcome (c.check lookup rule field value) (d.check lookup rule field value) := by
  unfold PatternCache.check
  split
  · have fetched := h.fetch rule
    exact ⟨congrArg (fun found => Check.result lookup (some found) rule field value) fetched.answer, fetched.caches⟩
  · exact ⟨rfl, h⟩

theorem checkInOrder (rules : List Rule) :
    SameOutcome (c.checkInOrder lookup field value rules) (d.checkInOrder lookup field value rules) := by
  induction rules generalizing c d with
  | nil => exact ⟨rfl, h⟩
  | cons rule rest ih =>
    obtain ⟨same, after⟩ := h.check lookup field value rule
    have later := ih after
    rw [PatternCache.checkInOrder, PatternCache.checkInOrder]
    dsimp only
    rw [same]
    split
    · exact ⟨rfl, after⟩
    · exact ⟨congrArg (List.cons _) later.answer, later.caches⟩

theorem checkField (rules : List Rule) :
    SameOutcome (c.checkField lookup field value rules) (d.checkField lookup field value rules) := by
  unfold PatternCache.checkField
  split
  · exact ⟨rfl, h⟩
  · exact h.checkInOrder lookup field value _

end Agrees

/-! ## Groups -/

/-- Sorting the rules in advance makes no difference, as the enabled ones are sorted anyway. -/
theorem checkField_sort (lookup : Option ReferenceLookup) (cache : PatternCache) (field : Text) (value : Option Text)
    (rules : List Rule) :
    cache.checkField lookup field value (Rule.sort rules) = cache.checkField lookup field value rules := by
  have active : Rule.sort ((Rule.sort rules).filter Rule.enabled) = Rule.sort (rules.filter Rule.enabled) := by
    rw [Rule.sort_filter, Rule.sort_filter, Rule.sort_sort]
  rw [checkField, checkField, active]

end PatternCache

namespace Rule
open PatternCache (Agrees SameOutcome patternRule)

/-- Grouping is a partition of the rules that name a field: the fields come in the order in which they are named first,
each rule that names one is in one group, once, and the group of a field has the rules that name it, in execution order
and those of one order as they were given. Checking a value against the group of a field, or against no rules when it has
none, has the same results as checking it against the rules that name it as they were given, with caches that hold the
same. -/
theorem byField_partition (rules : List Rule) :
    (byField rules).map Prod.fst = (rules.filterMap namedField?).eraseDups ∧
    ((byField rules).flatMap Prod.snd).Perm (rules.filter fun rule => rule.namedField?.isSome) ∧
    (∀ group ∈ byField rules,
      SortedBy order (rules.filter fun rule => rule.namedField? = some group.1) group.2) ∧
    ∀ (name : Text) (c d : PatternCache) (_ : Agrees c d) (lookup : Option ReferenceLookup) (field : Text)
      (value : Option Text),
      SameOutcome (c.checkField lookup field value (((byField rules).lookup name).getD []))
        (d.checkField lookup field value (rules.filter fun rule => rule.namedField? = some name)) := by
  refine ⟨?_, perm_byField rules, fun group member => ?_, fun name c d agrees lookup field value => ?_⟩
  · rw [byField_eq, List.map_map]
    exact List.map_id _
  · rw [byField_eq] at member
    obtain ⟨name, -, rfl⟩ := List.mem_map.1 member
    exact sortedBy_mergeSort order _
  · rw [lookup_byField, PatternCache.checkField_sort]
    exact agrees.checkField lookup field value _

/-- Two rules of one order, the second of which is not enabled, come before one that is given in front of them. -/
theorem byField_partition_ties :
    let late := patternRule "L" "CODE" "[a-z]+" 2
    let first := patternRule "F" "CODE" "[a-c]+" 1
    let unused : Rule := { patternRule "U" "CODE" "[0-9]+" 1 with enabled := false }
    let nameless : Rule := { patternRule "N" "CODE" "n" 0 with field := some [] }
    let rules := [late, first, patternRule "S" "STATE" "s" 0, nameless, unused]
    let c : PatternCache := ⟨[], ["L", "S"]⟩
    let d : PatternCache := ⟨[], ["S", "L"]⟩
    ("CODE".toList, [first, unused, late]) ∈ byField rules ∧ Agrees c d ∧
      SortedBy order [late, first, unused] [first, unused, late] ∧
      SameOutcome (c.checkField none "CODE" (some "abc") [first, unused, late])
        (d.checkField none "CODE" (some "abc") [late, first, unused]) := by
  intro late first unused nameless rules c d
  have sorted : sort [late, first, unused] = [first, unused, late] := by
    simp [sort, List.mergeSort, List.MergeSort.Internal.splitInTwo, inOrder, late, first, unused, patternRule]
  have member : ("CODE".toList, [first, unused, late]) ∈ byField rules := by
    rw [← sorted]
    exact List.mem_cons_self
  have agrees : Agrees c d := ⟨fun _ => rfl, by simp [c, d, or_comm]⟩
  obtain ⟨-, -, inOrder, same⟩ := byField_partition rules
  have found : ((byField rules).lookup "CODE".toList).getD [] = [first, unused, late] := by
    rw [lookup_byField, ← sorted]
    rfl
  have checked := same "CODE" c d agrees none "CODE" (some "abc")
  rw [found] at checked
  exact ⟨member, agrees, inOrder _ member, checked⟩

end Rule
end FixedExtract
