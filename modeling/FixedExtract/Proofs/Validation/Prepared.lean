import FixedExtract.Proofs.Validation.Single
/-!
# Prepared caches

Once the patterns of all rules were read in advance, nothing is left to be read while values are checked: the
cache knows every identifier under which a check may ask for a pattern, be the pattern malformed or not, and
whether or not rules share their identifiers. No check of a value, a field or a record changes it then.
-/

namespace FixedExtract.PatternCache

/-- The cache knows the identifier of every rule that matches values against a pattern. -/
def Prepared (cache : PatternCache) (rules : List Rule) : Prop :=
  ∀ rule ∈ rules, (regex? rule).isSome → cache.knows rule.id = true

theorem Prepared.mono {cache : PatternCache} {rules others : List Rule} (h : cache.Prepared rules)
    (sub : ∀ rule ∈ others, rule ∈ rules) : cache.Prepared others :=
  fun rule hr => h rule (sub rule hr)

/-! ## Reading in advance -/

theorem lookup_put_isSome {id other : Text} {cached : CachedPattern} {list : List (Text × CachedPattern)}
    (h : (list.lookup other).isSome) : ((put id cached list).lookup other).isSome := by
  rw [lookup_put]
  split
  · rfl
  · exact h

section
variable {cache more : PatternCache}

theorem knows_iff {id : Text} :
    cache.knows id = true ↔ (cache.compiled.lookup id).isSome ∨ id ∈ cache.malformed := by
  rw [knows, find?, Bool.or_eq_true, List.elem_iff]

/-- Whatever comes of reading a pattern is known under its identifier. -/
theorem knows_of_compile {id source : Text} (h : cache.compile id source = .ok more) :
    more.knows id = true := by
  rw [knows_iff]
  unfold compile at h
  cases read : Regex.Pattern.read source with
  | ok pattern =>
    rw [read] at h
    cases h
    exact Or.inl (by rw [lookup_put, if_pos rfl]; rfl)
  | error fault =>
    rw [read] at h
    cases fault with
    | refused refusal => cases h
    | malformed =>
      cases h
      right
      split
      · rename_i noted
        exact List.elem_iff.1 noted
      · exact List.mem_append_right _ (List.mem_singleton_self id)

/-- Reading one pattern leaves known what was known. -/
theorem knows_compile {id other source : Text} (h : cache.compile id source = .ok more)
    (known : cache.knows other = true) : more.knows other = true := by
  rw [knows_iff] at known ⊢
  unfold compile at h
  cases read : Regex.Pattern.read source with
  | ok pattern =>
    rw [read] at h
    cases h
    exact known.imp_left lookup_put_isSome
  | error fault =>
    rw [read] at h
    cases fault with
    | refused refusal => cases h
    | malformed =>
      cases h
      split
      · exact known
      · exact known.imp_right (List.mem_append_left _)

theorem knows_prepare {rules : List Rule} {id : Text} (known : cache.knows id = true) :
    (cache.prepare rules).2.knows id = true := by
  induction rules generalizing cache with
  | nil => exact known
  | cons rule rest ih =>
    simp only [prepare]
    split
    · exact ih known
    · split
      · rename_i compiled
        exact ih (knows_compile compiled known)
      · exact known

/-- After all patterns were read, the cache is prepared for their rules. -/
theorem prepared_prepare {rules : List Rule} (h : (cache.prepare rules).1 = none) :
    (cache.prepare rules).2.Prepared rules := by
  induction rules generalizing cache with
  | nil =>
    intro rule hr
    cases hr
  | cons first rest ih =>
    intro rule hr matching
    simp only [prepare] at h ⊢
    cases pattern : first.pattern?.filter fun _ => first.kind.hasPattern with
    | none =>
      simp only [pattern] at h ⊢
      rcases List.mem_cons.1 hr with rfl | later
      · rw [regex?, pattern] at matching
        cases matching
      · exact ih h rule later matching
    | some source =>
      simp only [pattern] at h ⊢
      -- The first rule is known from here on, and the others do not make it unknown again.
      cases compiled : cache.compile first.id source with
      | error refusal =>
        rw [compiled] at h
        cases h
      | ok more =>
        simp only [compiled] at h ⊢
        rcases List.mem_cons.1 hr with rfl | later
        · exact knows_prepare (knows_of_compile compiled)
        · exact ih h rule later matching

end

/-! ## Checking -/

section
variable {cache : PatternCache}

/-- A pattern that is known is not read again. -/
theorem fetch_of_knows {rule : Rule} (known : cache.knows rule.id = true) :
    (cache.fetch rule).2 = cache := by
  unfold fetch
  cases rule.pattern? with
  | none => rfl
  | some source => simp only [known, if_true]

variable (lookup : Option ReferenceLookup)

theorem Prepared.check {rule : Rule} (ready : cache.Prepared [rule]) (field : Text)
    (value : Option Text) : (cache.check lookup rule field value).2 = cache := by
  unfold PatternCache.check
  -- Only a rule that matches against a pattern asks for one, and its identifier is known.
  by_cases needed : rule.needsPattern value = true
  · rw [if_pos needed]
    have matching : (regex? rule).isSome := by
      rw [regex?_of_needsPattern needed]
      simp only [Rule.needsPattern, Bool.and_eq_true] at needed
      exact needed.1.1.2
    exact fetch_of_knows (ready rule (List.mem_singleton_self rule) matching)
  · rw [if_neg needed]

theorem Prepared.checkInOrder {rules : List Rule} (ready : cache.Prepared rules) (field : Text)
    (value : Option Text) : (cache.checkInOrder lookup field value rules).2 = cache := by
  induction rules with
  | nil => rfl
  | cons rule rest ih =>
    have here : (cache.check lookup rule field value).2 = cache :=
      Prepared.check lookup (ready.mono (by simp)) field value
    have after := ih (ready.mono fun other => List.mem_cons_of_mem rule)
    simp only [PatternCache.checkInOrder, here]
    split
    · rfl
    · exact after

theorem Prepared.checkField {rules : List Rule} (ready : cache.Prepared rules) (field : Text)
    (value : Option Text) : (cache.checkField lookup field value rules).2 = cache := by
  have active := ready.mono mem_of_mem_active
  unfold PatternCache.checkField
  cases sorted : Rule.sort (rules.filter Rule.enabled) with
  | nil => rfl
  | cons first rest =>
    rw [sorted] at active
    exact active.checkInOrder lookup field value

variable {rules : List (Text × List Rule)} (ready : cache.Prepared (rules.flatMap Prod.snd))
include ready

theorem Prepared.checkFields (threshold : Int) (record : FieldValues) (s : Summary)
    (names : List Text) : (cache.checkFields lookup threshold record rules s names).2 = cache := by
  induction names generalizing s with
  | nil => rfl
  | cons name rest ih =>
    have field : (cache.checkField lookup name (record.lookup name).join
        ((rules.lookup name).getD [])).2 = cache :=
      Prepared.checkField lookup (ready.mono (mem_rules_of_lookup name)) name _
    rw [checkFields_cons]
    simp only [field]
    split
    · rfl
    · exact ih _

/-- Validating a record leaves a prepared cache as it is. -/
theorem Prepared.checkRecord (settings : ValidationSettings) (record : FieldValues) :
    (cache.checkRecord lookup settings rules record).2 = cache :=
  ready.checkFields lookup settings.threshold record _ _

/-- Records that are validated one after the other have the summaries that they have by themselves. -/
theorem Prepared.checkEach (settings : ValidationSettings) (records : List FieldValues) :
    cache.checkEach lookup settings rules records =
      (records.map fun record => (cache.checkRecord lookup settings rules record).1, cache) := by
  induction records with
  | nil => rfl
  | cons record rest ih =>
    have here := ready.checkRecord lookup settings record
    simp only [PatternCache.checkEach, here, ih, List.map_cons]

end
end FixedExtract.PatternCache
