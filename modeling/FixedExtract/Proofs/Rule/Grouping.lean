import FixedExtract.Proofs.Ordering
import FixedExtract.Rule.Basic
import Mathlib.Data.List.Induction
import Mathlib.Data.List.Perm.Basic
/-!
# Rules grouped by field

Grouping takes the rules one after the other, puts each at the end of the group of its field, and sorts the groups in
the end. So the fields stand in the order in which rules name them first, and the group of a field has all rules that
name it, each once. Sorting is stable, so a group that is sorted already is not changed by sorting it again, and rules
that are left out of it might as well have been left out before.
-/

namespace FixedExtract.Rule

variable {rules : List Rule} {rule : Rule} {field : Text}

/-- The field that a rule names; none when the name is missing or empty. -/
def namedField? (rule : Rule) : Option Text := rule.field.filter fun name => !name.isEmpty

/-- The fields that rules name, in the order in which they are named first. -/
def fieldsOf (rules : List Rule) : List Text := (rules.filterMap namedField?).eraseDups

/-- The rules that name a field, in the order in which they are given. -/
def rulesOf (field : Text) (rules : List Rule) : List Rule :=
  rules.filter fun rule => rule.namedField? = some field

theorem mem_fieldsOf_iff : field ∈ fieldsOf rules ↔ ∃ rule ∈ rules, rule.namedField? = some field := by
  rw [fieldsOf, List.mem_eraseDups, List.mem_filterMap]

theorem nodup_fieldsOf (rules : List Rule) : (fieldsOf rules).Nodup := nodup_eraseDups _

theorem fieldsOf_concat (named : rule.namedField? = some field) :
    fieldsOf (rules ++ [rule]) = if field ∈ fieldsOf rules then fieldsOf rules else fieldsOf rules ++ [field] := by
  have one : [rule].filterMap namedField? = [field] := by rw [List.filterMap_cons_some named, List.filterMap_nil]
  rw [fieldsOf, List.filterMap_append, one, eraseDups_concat, fieldsOf]
  simp only [List.mem_eraseDups]

theorem fieldsOf_concat_of_unnamed (unnamed : rule.namedField? = none) :
    fieldsOf (rules ++ [rule]) = fieldsOf rules := by
  rw [fieldsOf, List.filterMap_append, List.filterMap_cons_none unnamed, List.filterMap_nil, List.append_nil, fieldsOf]

theorem rulesOf_concat (field : Text) (rules : List Rule) (rule : Rule) :
    rulesOf field (rules ++ [rule]) =
      if rule.namedField? = some field then rulesOf field rules ++ [rule] else rulesOf field rules := by
  rw [rulesOf, List.filter_append, List.filter_cons, List.filter_nil]
  simp only [decide_eq_true_eq]
  split
  · rfl
  · exact List.append_nil _

theorem rulesOf_eq_nil (new : field ∉ fieldsOf rules) : rulesOf field rules = [] := by
  rw [rulesOf, List.filter_eq_nil_iff]
  intro rule member
  rw [decide_eq_true_eq]
  exact fun here => new (mem_fieldsOf_iff.2 ⟨rule, member, here⟩)

/-! ## One rule more -/

theorem addTo_of_notMem {groups : List (Text × List Rule)} (new : field ∉ groups.map Prod.fst) :
    rule.addTo field groups = groups ++ [(field, [rule])] := by
  induction groups with
  | nil => rfl
  | cons group rest ih =>
    obtain ⟨name, rules⟩ := group
    rw [List.map_cons, List.mem_cons, not_or] at new
    rw [addTo, if_neg (Ne.symm new.1), ih new.2, List.cons_append]

/-- A field that has a group gets the rule at the end of it, and the other groups stay as they are. -/
theorem addTo_map {names : List Text} (group : Text → List Rule) (distinct : names.Nodup) (old : field ∈ names) :
    rule.addTo field (names.map fun name => (name, group name)) =
      names.map fun name => (name, if name = field then group name ++ [rule] else group name) := by
  induction names with
  | nil => cases old
  | cons name names ih =>
    obtain ⟨apart, distinct⟩ := List.nodup_cons.1 distinct
    rw [List.map_cons, List.map_cons, addTo]
    by_cases here : name = field
    · subst here
      rw [if_pos rfl, if_pos rfl]
      congr 1
      refine List.map_congr_left fun other member => ?_
      rw [if_neg (ne_of_mem_of_not_mem member apart)]
    · have later : field ∈ names := (List.mem_cons.1 old).resolve_left (Ne.symm here)
      rw [if_neg here, if_neg here, ih distinct later]

/-- Nothing is lost from the groups, and nothing is doubled. -/
theorem perm_addTo (field : Text) (rule : Rule) (groups : List (Text × List Rule)) :
    ((rule.addTo field groups).flatMap Prod.snd).Perm (groups.flatMap Prod.snd ++ [rule]) := by
  induction groups with
  | nil => exact .refl _
  | cons group rest ih =>
    obtain ⟨name, rules⟩ := group
    rw [addTo]
    split
    · rw [List.flatMap_cons, List.flatMap_cons, List.append_assoc, List.append_assoc]
      exact List.perm_append_comm.append_left rules
    · rw [List.flatMap_cons, List.flatMap_cons, List.append_assoc]
      exact ih.append_left rules

/-! ## Groups -/

/-- The groups of rules before they are sorted. -/
def groupsOf (rules : List Rule) : List (Text × List Rule) :=
  (fieldsOf rules).map fun field => (field, rulesOf field rules)

theorem keys_groupsOf (rules : List Rule) : (groupsOf rules).map Prod.fst = fieldsOf rules := by
  rw [groupsOf, List.map_map]
  exact List.map_id _

/-- What the grouping does with one rule. -/
def group (groups : List (Text × List Rule)) (rule : Rule) : List (Text × List Rule) :=
  match rule.namedField? with
  | some field => rule.addTo field groups
  | none => groups

theorem group_groupsOf (rules : List Rule) (rule : Rule) :
    group (groupsOf rules) rule = groupsOf (rules ++ [rule]) := by
  unfold group
  cases named : rule.namedField? with
  | none =>
    rw [groupsOf, groupsOf, fieldsOf_concat_of_unnamed named]
    simp only [rulesOf_concat, named, reduceCtorEq, if_false]
  | some field =>
    show rule.addTo field (groupsOf rules) = _
    by_cases old : field ∈ fieldsOf rules
    · rw [groupsOf, groupsOf, fieldsOf_concat named, if_pos old, addTo_map _ (nodup_fieldsOf rules) old]
      simp only [rulesOf_concat, named, Option.some_inj, eq_comm]
    · have others : ∀ name ∈ fieldsOf rules, rulesOf name (rules ++ [rule]) = rulesOf name rules := by
        intro name member
        have apart : field ≠ name := (ne_of_mem_of_not_mem member old).symm
        rw [rulesOf_concat, named, if_neg (mt Option.some_inj.1 apart)]
      rw [addTo_of_notMem ((keys_groupsOf rules).symm ▸ old), groupsOf, groupsOf, fieldsOf_concat named, if_neg old,
        List.map_append, List.map_singleton, rulesOf_concat, if_pos named, rulesOf_eq_nil old]
      congr 1
      exact List.map_congr_left fun name member => by rw [others name member]

/-- Taking rule after rule, the groups so far are those of the rules so far. -/
theorem foldl_group (rules : List Rule) : rules.foldl group [] = groupsOf rules := by
  induction rules using List.reverseRecOn with
  | nil => rfl
  | append_singleton rules rule ih => rw [List.foldl_append, ih, List.foldl_cons, List.foldl_nil, group_groupsOf]

/-- Every rule that names a field is in one of the groups, once, and no other rule is. -/
theorem perm_groupsOf (rules : List Rule) :
    ((groupsOf rules).flatMap Prod.snd).Perm (rules.filter fun rule => rule.namedField?.isSome) := by
  induction rules using List.reverseRecOn with
  | nil => exact .refl _
  | append_singleton rules rule ih =>
    rw [← group_groupsOf, group, List.filter_append]
    cases named : rule.namedField? with
    | none =>
      rw [List.filter_cons_of_neg (by simp [named]), List.filter_nil, List.append_nil]
      exact ih
    | some field =>
      rw [List.filter_cons_of_pos (by simp [named]), List.filter_nil]
      exact (perm_addTo field rule _).trans (ih.append_right [rule])

/-- The groups are those of all fields that rules name, sorted. -/
theorem byField_eq (rules : List Rule) :
    byField rules = (fieldsOf rules).map fun field => (field, sort (rulesOf field rules)) := by
  have sorted : byField rules = (rules.foldl group []).map fun group => (group.1, sort group.2) := rfl
  rw [sorted, foldl_group, groupsOf, List.map_map]
  rfl

theorem perm_byField (rules : List Rule) :
    ((byField rules).flatMap Prod.snd).Perm (rules.filter fun rule => rule.namedField?.isSome) := by
  refine .trans ?_ (perm_groupsOf rules)
  rw [byField_eq, groupsOf, List.flatMap_map, List.flatMap_map]
  exact List.Perm.flatMap_left _ fun field _ => List.mergeSort_perm _ _

theorem lookup_map (names : List Text) (group : Text → List Rule) (field : Text) :
    (names.map fun name => (name, group name)).lookup field = if field ∈ names then some (group field) else none := by
  induction names with
  | nil => rfl
  | cons name names ih =>
    rw [List.map_cons, List.lookup_cons]
    by_cases here : field = name
    · subst here
      rw [beq_self_eq_true, if_pos List.mem_cons_self]
    · rw [beq_false_of_ne here, ih]
      simp only [List.mem_cons, here, false_or]

/-- A field has the rules that name it, sorted, and none when there is no group for it. -/
theorem lookup_byField (field : Text) (rules : List Rule) :
    ((byField rules).lookup field).getD [] = sort (rulesOf field rules) := by
  rw [byField_eq, lookup_map]
  split
  · rfl
  · next new =>
    rw [rulesOf_eq_nil new, sort, List.mergeSort_nil]
    rfl

theorem mem_of_mem_byField (rule : Rule) (h : rule ∈ (byField rules).flatMap Prod.snd) : rule ∈ rules :=
  (List.mem_filter.1 ((perm_byField rules).mem_iff.1 h)).1

/-! ## Sorting again -/

theorem sort_filter (p : Rule → Bool) (rules : List Rule) : sort (rules.filter p) = (sort rules).filter p := by
  have given : SortedBy order rules (sort rules) := sortedBy_mergeSort order rules
  have chosen : SortedBy order (rules.filter p) (sort (rules.filter p)) := sortedBy_mergeSort order _
  have kept := given.filter p
  exact eq_of_ascending chosen.ascending kept.ascending fun k => (chosen.stable k).trans (kept.stable k).symm

theorem sort_sort (rules : List Rule) : sort (sort rules) = sort rules := by
  refine List.mergeSort_of_pairwise ?_
  exact (sortedBy_mergeSort order rules).ascending.imp decide_eq_true

end FixedExtract.Rule
