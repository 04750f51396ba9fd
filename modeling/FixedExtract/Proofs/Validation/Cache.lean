import FixedExtract.Validation.Record
/-!
# Sound caches

Patterns are cached under identifiers, so a cache is sound only as long as an identifier stands for one
pattern. Then everything in it is what reading that pattern gives, and two sound caches, however much they
have in them, lead to the same results. This is shown for every function that is handed a cache, from the
reading of one pattern up to the validation of many records; every one of them leaves a sound cache behind.
-/

namespace FixedExtract.PatternCache

/-- Which patterns are written for an identifier. -/
abbrev Book := Text → Text → Prop

/-- No identifier has two patterns in the book. -/
def Book.Unambiguous (book : Book) : Prop :=
  ∀ id source other, book id source → book id other → source = other

/-- The book of the patterns of rules, as far as they count. -/
def bookOf (source? : Rule → Option Text) (rules : List Rule) : Book := fun id source =>
  ∃ rule ∈ rules, rule.id = id ∧ source? rule = some source

/-- Rules with the same identifier have the same pattern, if both have one that counts. -/
def Consistent (source? : Rule → Option Text) (rules : List Rule) : Prop :=
  ∀ a ∈ rules, ∀ b ∈ rules, a.id = b.id → ∀ source ∈ source? a, ∀ other ∈ source? b, source = other

instance (source? : Rule → Option Text) (rules : List Rule) : Decidable (Consistent source? rules) :=
  inferInstanceAs (Decidable (∀ a ∈ rules, ∀ b ∈ rules, a.id = b.id →
    ∀ source ∈ source? a, ∀ other ∈ source? b, source = other))

theorem unambiguous_bookOf {source? : Rule → Option Text} {rules : List Rule}
    (consistent : Consistent source? rules) : (bookOf source? rules).Unambiguous := by
  rintro id source other ⟨a, ha, rfl, hs⟩ ⟨b, hb, same, ho⟩
  exact consistent a ha b hb same.symm source hs other ho

/-- Whatever the cache has was read of a pattern that the book has for the identifier. -/
structure Sound (book : Book) (cache : PatternCache) : Prop where
  compiled : ∀ id cached, (id, cached) ∈ cache.compiled →
    book id cached.source ∧ Regex.Pattern.read cached.source = .ok cached.pattern
  malformed : ∀ id ∈ cache.malformed,
    ∃ source, book id source ∧ Regex.Pattern.read source = .error .malformed

theorem sound_empty (book : Book) : Sound book empty := by
  constructor
  · intro id cached h
    cases h
  · intro id h
    cases h

/-! ## Reading patterns -/

theorem mem_put {id name : Text} {cached other : CachedPattern}
    {list : List (Text × CachedPattern)} (h : (name, other) ∈ put id cached list) :
    (name, other) = (id, cached) ∨ (name, other) ∈ list := by
  induction list with
  | nil => exact Or.inl (List.mem_singleton.1 h)
  | cons entry rest ih =>
    obtain ⟨first, before⟩ := entry
    rw [put] at h
    split at h
    · rename_i same
      rcases List.mem_cons.1 h with here | later
      · exact Or.inl (here.trans (by rw [same]))
      · exact Or.inr (List.mem_cons_of_mem _ later)
    · rcases List.mem_cons.1 h with here | later
      · exact Or.inr (here ▸ List.mem_cons_self)
      · exact (ih later).imp_right (List.mem_cons_of_mem _)

theorem lookup_put (id other : Text) (cached : CachedPattern) (list : List (Text × CachedPattern)) :
    (put id cached list).lookup other = if other = id then some cached else list.lookup other := by
  induction list with
  | nil =>
    rw [put, List.lookup_cons, List.lookup_nil]
    by_cases here : other = id
    · rw [if_pos here, beq_iff_eq.2 here]
    · rw [if_neg here, beq_eq_false_iff_ne.2 here]
  | cons entry rest ih =>
    obtain ⟨first, before⟩ := entry
    rw [put]
    by_cases same : first = id
    · subst same
      rw [if_pos rfl, List.lookup_cons, List.lookup_cons]
      by_cases here : other = first
      · rw [if_pos here, beq_iff_eq.2 here]
      · rw [if_neg here, beq_eq_false_iff_ne.2 here]
    · rw [if_neg same, List.lookup_cons, List.lookup_cons]
      by_cases here : other = first
      · have different : other ≠ id := fun h => same (here.symm.trans h)
        rw [if_neg different, beq_iff_eq.2 here]
      · rw [beq_eq_false_iff_ne.2 here]
        exact ih

theorem mem_of_find? {cache : PatternCache} {id : Text} {cached : CachedPattern}
    (h : cache.find? id = some cached) : (id, cached) ∈ cache.compiled := by
  rw [find?, List.lookup_eq_some_iff] at h
  obtain ⟨before, after, split, -⟩ := h
  rw [split]
  exact List.mem_append_right _ List.mem_cons_self

/-- What reading a pattern comes to, without a cache. -/
def readPattern (source : Text) : Except Regex.Refusal (Option CachedPattern) :=
  match Regex.Pattern.read source with
  | .ok pattern => .ok (some ⟨source, pattern⟩)
  | .error .malformed => .ok none
  | .error (.refused refusal) => .error refusal

theorem compile_eq_error_iff {cache : PatternCache} {id source : Text} {refusal : Regex.Refusal} :
    cache.compile id source = .error refusal ↔ readPattern source = .error refusal := by
  unfold compile readPattern
  cases Regex.Pattern.read source with
  | ok pattern => simp
  | error fault => cases fault <;> simp

/-- Under a new identifier, what is found after a pattern was kept is what reading it comes to. -/
theorem readPattern_of_compile {cache more : PatternCache} {id source : Text}
    (h : cache.compile id source = .ok more) (new : cache.find? id = none) :
    readPattern source = .ok (more.find? id) := by
  unfold compile at h
  unfold readPattern
  cases read : Regex.Pattern.read source with
  | ok pattern =>
    rw [read] at h
    cases h
    rw [find?, lookup_put, if_pos rfl]
  | error fault =>
    rw [read] at h
    cases fault with
    | refused refusal => cases h
    | malformed =>
      cases h
      have unchanged : (if cache.malformed.elem id then cache
          else { cache with malformed := cache.malformed ++ [id] }).find? id = cache.find? id := by
        split <;> rfl
      rw [unchanged, new]

section
variable {book : Book} {cache : PatternCache}

/-- Reading a pattern that the book has keeps a sound cache sound. -/
theorem Sound.compile (sound : Sound book cache) {more : PatternCache} {id source : Text}
    (written : book id source) (h : cache.compile id source = .ok more) : Sound book more := by
  unfold PatternCache.compile at h
  cases read : Regex.Pattern.read source with
  | ok pattern =>
    rw [read] at h
    cases h
    refine ⟨?_, sound.malformed⟩
    intro name other hm
    rcases mem_put hm with here | before
    · cases here
      exact ⟨written, read⟩
    · exact sound.compiled name other before
  | error fault =>
    rw [read] at h
    cases fault with
    | refused refusal => cases h
    | malformed =>
      cases h
      split
      · exact sound
      · refine ⟨sound.compiled, ?_⟩
        intro name hm
        rcases List.mem_append.1 hm with before | here
        · exact sound.malformed name before
        · rw [List.mem_singleton.1 here]
          exact ⟨source, written, read⟩

/-- What a sound cache knows of an identifier is what reading its pattern comes to. -/
theorem Sound.readPattern_of_knows (sound : Sound book cache) (unambiguous : book.Unambiguous)
    {id source : Text} (written : book id source) (known : cache.knows id = true) :
    readPattern source = .ok (cache.find? id) := by
  unfold readPattern
  cases found : cache.find? id with
  | some cached =>
    obtain ⟨same, read⟩ := sound.compiled id cached (mem_of_find? found)
    rw [unambiguous id source cached.source written same, read]
  | none =>
    rw [knows, found, Option.isSome_none, Bool.false_or, List.elem_iff] at known
    obtain ⟨other, same, read⟩ := sound.malformed id known
    rw [unambiguous id source other written same, read]

/-- What fetching the pattern of a rule comes to, without a cache. -/
def ownPattern (rule : Rule) : Except Regex.Refusal (Option CachedPattern) :=
  match rule.pattern? with
  | none => .ok none
  | some source => readPattern source

/-- A sound cache fetches the pattern of a rule as if nothing had been cached. -/
theorem Sound.fetch (sound : Sound book cache) (unambiguous : book.Unambiguous) {rule : Rule}
    (written : ∀ source, rule.pattern? = some source → book rule.id source) :
    (cache.fetch rule).1 = ownPattern rule ∧ Sound book (cache.fetch rule).2 := by
  unfold PatternCache.fetch ownPattern
  cases pattern : rule.pattern? with
  | none => exact ⟨rfl, sound⟩
  | some source =>
    have inBook := written source pattern
    by_cases known : cache.knows rule.id = true
    · simp only [known, if_true]
      exact ⟨(sound.readPattern_of_knows unambiguous inBook known).symm, sound⟩
    · simp only [known]
      have new : cache.find? rule.id = none := by
        simp only [knows, Bool.or_eq_true, not_or, Option.not_isSome_iff_eq_none] at known
        exact known.1
      cases compiled : cache.compile rule.id source with
      | ok more => exact ⟨(readPattern_of_compile compiled new).symm, sound.compile inBook compiled⟩
      | error refusal => exact ⟨(compile_eq_error_iff.1 compiled).symm, sound⟩

end

/-! ## Outcomes that are alike -/

/-- Two outcomes have the same answer, and a sound cache each. -/
structure Alike {α : Type} (book : Book) (a b : α × PatternCache) : Prop where
  answer : a.1 = b.1
  left : Sound book a.2
  right : Sound book b.2

section
variable {α : Type} {book : Book} {c d : PatternCache}

theorem Sound.alike (hc : Sound book c) (hd : Sound book d) (a : α) : Alike book (a, c) (a, d) :=
  ⟨rfl, hc, hd⟩

/-- Alike outcomes can be carried on from one answer and two sound caches. -/
theorem Alike.exists_eq {a b : α × PatternCache} (h : Alike book a b) :
    ∃ answer c d, a = (answer, c) ∧ b = (answer, d) ∧ Sound book c ∧ Sound book d := by
  obtain ⟨answer, c⟩ := a
  obtain ⟨other, d⟩ := b
  obtain ⟨same, hc, hd⟩ := h
  cases same
  exact ⟨answer, c, d, rfl, rfl, hc, hd⟩

end

/-! ## Checks -/

/-- The pattern that values are matched against when the rule is checked. -/
def regex? (rule : Rule) : Option Text := rule.pattern?.filter fun _ => rule.kind.hasPattern

/-- A rule that asks for nothing but a match with a pattern. -/
def patternRule (id field source : Text) (order : Int) : Rule where
  id := id
  kind := .pattern
  field := some field
  order := order
  severity := .error
  enabled := true
  dataType := none
  minLength := none
  maxLength := none
  pattern := some source
  range := none
  message := none
  required := false
  precision := none
  scale := none
  referenceTable := none
  referenceColumn := none

/-- The patterns that checking the rules may read are in the book. -/
def Covers (book : Book) (rules : List Rule) : Prop :=
  ∀ rule ∈ rules, ∀ source, regex? rule = some source → book rule.id source

theorem regex?_of_needsPattern {rule : Rule} {value : Option Text}
    (needed : rule.needsPattern value = true) : regex? rule = rule.pattern? := by
  simp only [Rule.needsPattern, Bool.and_eq_true] at needed
  have matching : rule.kind.hasPattern = true := needed.1.1.1
  cases pattern : rule.pattern? <;> simp [regex?, pattern, matching]

/-- A check that needs no pattern leaves the cache alone. -/
theorem check_of_unneeded {lookup : Option ReferenceLookup} {cache : PatternCache} {rule : Rule} {field : Text}
    {value : Option Text} (unneeded : rule.needsPattern value = false) :
    cache.check lookup rule field value = (Check.result lookup none rule field value, cache) := by
  rw [check, if_neg (by rw [unneeded]; exact Bool.false_ne_true)]

/-- The rules that a field is checked against are among those it has. -/
theorem mem_of_mem_active {rules : List Rule} :
    ∀ rule ∈ Rule.sort (rules.filter Rule.enabled), rule ∈ rules := by
  intro rule hr
  exact (List.mem_filter.1 (List.mem_mergeSort.1 hr)).1

/-- The rules of one field are among those of all fields. -/
theorem mem_rules_of_lookup {rules : List (Text × List Rule)} (name : Text) :
    ∀ rule ∈ (rules.lookup name).getD [], rule ∈ rules.flatMap Prod.snd := by
  intro rule hr
  cases found : rules.lookup name with
  | none => simp [found] at hr
  | some group =>
    rw [found, Option.getD_some] at hr
    obtain ⟨before, after, split, -⟩ := List.lookup_eq_some_iff.1 found
    exact List.mem_flatMap.2 ⟨(name, group), by simp [split], hr⟩

section
variable {book : Book} {c d : PatternCache}

theorem Covers.mono {rules others : List Rule} (h : Covers book rules)
    (sub : ∀ rule ∈ others, rule ∈ rules) : Covers book others :=
  fun rule hr => h rule (sub rule hr)

/-- Preparing reads the same patterns whatever the cache has. -/
theorem alike_prepare {rules : List Rule} (covers : Covers book rules) (hc : Sound book c)
    (hd : Sound book d) : Alike book (c.prepare rules) (d.prepare rules) := by
  induction rules generalizing c d with
  | nil => exact hc.alike hd none
  | cons rule rest ih =>
    have restCovers := covers.mono fun other => List.mem_cons_of_mem rule
    have first := covers rule List.mem_cons_self
    rw [regex?] at first
    simp only [prepare]
    cases pattern : rule.pattern?.filter fun _ => rule.kind.hasPattern with
    | none => exact ih restCovers hc hd
    | some source =>
      have written := first source pattern
      simp only
      cases readC : c.compile rule.id source with
      | error refusal =>
        have readD : d.compile rule.id source = .error refusal :=
          compile_eq_error_iff.2 (compile_eq_error_iff.1 readC)
        simp only [readD]
        exact hc.alike hd (some refusal)
      | ok moreC =>
        cases readD : d.compile rule.id source with
        | error refusal =>
          rw [compile_eq_error_iff.2 (compile_eq_error_iff.1 readD)] at readC
          cases readC
        | ok moreD => exact ih restCovers (hc.compile written readC) (hd.compile written readD)

section
variable (unambiguous : book.Unambiguous) (lookup : Option ReferenceLookup)
include unambiguous

theorem alike_fetch {rule : Rule}
    (written : ∀ source, rule.pattern? = some source → book rule.id source) (hc : Sound book c)
    (hd : Sound book d) : Alike book (c.fetch rule) (d.fetch rule) := by
  obtain ⟨answerC, soundC⟩ := hc.fetch unambiguous written
  obtain ⟨answerD, soundD⟩ := hd.fetch unambiguous written
  exact ⟨answerC.trans answerD.symm, soundC, soundD⟩

theorem alike_check {rule : Rule} (covers : Covers book [rule]) (field : Text) (value : Option Text)
    (hc : Sound book c) (hd : Sound book d) :
    Alike book (c.check lookup rule field value) (d.check lookup rule field value) := by
  unfold check
  by_cases needed : rule.needsPattern value = true
  · rw [if_pos needed, if_pos needed]
    have written : ∀ source, rule.pattern? = some source → book rule.id source := by
      rw [← regex?_of_needsPattern needed]
      exact covers rule (List.mem_singleton_self rule)
    obtain ⟨found, c', d', fromC, fromD, hc', hd'⟩ :=
      (alike_fetch unambiguous written hc hd).exists_eq
    rw [fromC, fromD]
    exact hc'.alike hd' _
  · rw [if_neg needed, if_neg needed]
    exact hc.alike hd _

theorem alike_checkInOrder {rules : List Rule} (covers : Covers book rules) (field : Text)
    (value : Option Text) (hc : Sound book c) (hd : Sound book d) :
    Alike book (c.checkInOrder lookup field value rules) (d.checkInOrder lookup field value rules) := by
  induction rules generalizing c d with
  | nil => exact hc.alike hd []
  | cons rule rest ih =>
    have one : Covers book [rule] := covers.mono (by simp)
    have restCovers := covers.mono fun other => List.mem_cons_of_mem rule
    obtain ⟨result, c', d', fromC, fromD, hc', hd'⟩ :=
      (alike_check unambiguous lookup one field value hc hd).exists_eq
    obtain ⟨results, c'', d'', restC, restD, hc'', hd''⟩ := (ih restCovers hc' hd').exists_eq
    simp only [checkInOrder, fromC, fromD, restC, restD]
    by_cases stops : (!result.valid && rule.isCritical) = true
    · rw [if_pos stops, if_pos stops]
      exact hc'.alike hd' _
    · rw [if_neg stops, if_neg stops]
      exact hc''.alike hd'' _

theorem alike_checkField {rules : List Rule} (covers : Covers book rules) (field : Text)
    (value : Option Text) (hc : Sound book c) (hd : Sound book d) :
    Alike book (c.checkField lookup field value rules) (d.checkField lookup field value rules) := by
  have active := covers.mono mem_of_mem_active
  unfold checkField
  cases sorted : Rule.sort (rules.filter Rule.enabled) with
  | nil => exact hc.alike hd _
  | cons first rest =>
    rw [sorted] at active
    exact alike_checkInOrder unambiguous lookup active field value hc hd

/-! ## Records -/

variable {rules : List (Text × List Rule)} (covers : Covers book (rules.flatMap Prod.snd))
include covers

theorem alike_checkFields (threshold : Int) (record : FieldValues) (s : Summary) (names : List Text)
    (hc : Sound book c) (hd : Sound book d) :
    Alike book (c.checkFields lookup threshold record rules s names)
      (d.checkFields lookup threshold record rules s names) := by
  induction names generalizing c d s with
  | nil => exact hc.alike hd s
  | cons name rest ih =>
    have fieldCovers := covers.mono (mem_rules_of_lookup name)
    obtain ⟨results, c', d', fromC, fromD, hc', hd'⟩ :=
      (alike_checkField unambiguous lookup fieldCovers name (record.lookup name).join hc hd).exists_eq
    simp only [checkFields, fromC, fromD]
    by_cases reached : reaches threshold (s.add name results) = true
    · rw [if_pos reached, if_pos reached]
      exact hc'.alike hd' _
    · rw [if_neg reached, if_neg reached]
      exact ih (s.add name results) hc' hd'

theorem alike_checkRecord (settings : ValidationSettings) (record : FieldValues) (hc : Sound book c)
    (hd : Sound book d) :
    Alike book (c.checkRecord lookup settings rules record)
      (d.checkRecord lookup settings rules record) :=
  alike_checkFields unambiguous lookup covers settings.threshold record _ _ hc hd

theorem alike_checkEach (settings : ValidationSettings) (records : List FieldValues)
    (hc : Sound book c) (hd : Sound book d) :
    Alike book (c.checkEach lookup settings rules records)
      (d.checkEach lookup settings rules records) := by
  induction records generalizing c d with
  | nil => exact hc.alike hd []
  | cons record rest ih =>
    obtain ⟨s, c', d', fromC, fromD, hc', hd'⟩ :=
      (alike_checkRecord unambiguous lookup covers settings record hc hd).exists_eq
    obtain ⟨others, c'', d'', restC, restD, hc'', hd''⟩ := (ih hc' hd').exists_eq
    simp only [checkEach, fromC, fromD, restC, restD]
    exact hc''.alike hd'' _

theorem alike_checkRecords (settings : ValidationSettings) (records : List FieldValues)
    (hc : Sound book c) (hd : Sound book d) :
    Alike book (c.checkRecords lookup settings rules records)
      (d.checkRecords lookup settings rules records) := by
  obtain ⟨refusal, c', d', fromC, fromD, hc', hd'⟩ := (alike_prepare covers hc hd).exists_eq
  obtain ⟨parts, c'', d'', restC, restD, hc'', hd''⟩ :=
    (alike_checkEach unambiguous lookup covers settings records hc' hd').exists_eq
  rw [checkRecords, checkRecords, fromC, fromD]
  cases refusal with
  | some refusal => exact hc'.alike hd' _
  | none =>
    simp only [restC, restD]
    exact hc''.alike hd'' _

end
end

end FixedExtract.PatternCache
