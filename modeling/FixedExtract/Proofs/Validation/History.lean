import FixedExtract.Proofs.Validation.Cache
/-!
# Histories of a cache

A cache is kept from call to call, and calls come in any order: patterns are read in advance or on the way,
for single values, for records and for batches. As long as rules with the same identifier have the same
pattern, what is in the cache is what their patterns are read as, and no call can tell from its answer what
came before it.
-/

namespace FixedExtract

/-- Rules with the same identifier have the same pattern. -/
def Rule.SharePatterns (rules : List Rule) : Prop :=
  ∀ a ∈ rules, ∀ b ∈ rules, a.id = b.id → a.pattern = b.pattern

instance (rules : List Rule) : Decidable (Rule.SharePatterns rules) :=
  inferInstanceAs (Decidable (∀ a ∈ rules, ∀ b ∈ rules, a.id = b.id → a.pattern = b.pattern))

namespace PatternCache

/-! ## Calls -/

/-- What is asked of whoever keeps a cache. -/
inductive Call where
  | prepare (rules : List Rule)
  | pattern (rule : Rule)
  | check (rule : Rule) (field : Text) (value : Option Text)
  | checkField (field : Text) (value : Option Text) (rules : List Rule)
  | checkRecord (settings : ValidationSettings) (rules : List (Text × List Rule)) (record : FieldValues)
  | checkRecords (settings : ValidationSettings) (rules : List (Text × List Rule))
      (records : List FieldValues)
  deriving Repr

inductive Answer where
  | prepared (refusal : Option Regex.Refusal)
  | pattern (found : Except Regex.Refusal (Option CachedPattern))
  | result (r : FieldResult)
  | results (rs : List FieldResult)
  | summary (s : Summary)
  | merged (outcome : Except Regex.Refusal Summary)
  deriving Repr

namespace Call

/-- The rules that a call is about. -/
def rules : Call → List Rule
  | .prepare rules => rules
  | .pattern rule => [rule]
  | .check rule _ _ => [rule]
  | .checkField _ _ rules => rules
  | .checkRecord _ rules _ => rules.flatMap Prod.snd
  | .checkRecords _ rules _ => rules.flatMap Prod.snd

/-- The answer to a call, and the cache after it. -/
def answer (lookup : Option ReferenceLookup) (cache : PatternCache) : Call → Answer × PatternCache
  | .prepare rules => (cache.prepare rules).map .prepared id
  | .pattern rule => (cache.fetch rule).map .pattern id
  | .check rule field value => (cache.check lookup rule field value).map .result id
  | .checkField field value rules => (cache.checkField lookup field value rules).map .results id
  | .checkRecord settings rules record => (cache.checkRecord lookup settings rules record).map .summary id
  | .checkRecords settings rules records =>
    (cache.checkRecords lookup settings rules records).map .merged id

end Call

/-- The answers to calls that come one after the other, and the cache after the last. -/
def run (lookup : Option ReferenceLookup) (cache : PatternCache) : List Call → List Answer × PatternCache
  | [] => ([], cache)
  | call :: rest =>
    let (answer, cache) := call.answer lookup cache
    let (answers, cache) := cache.run lookup rest
    (answer :: answers, cache)

/-! ## One call -/

/-- The patterns of the rules are in the book, whatever their kinds. -/
def Records (book : Book) (rules : List Rule) : Prop :=
  ∀ rule ∈ rules, ∀ source, rule.pattern? = some source → book rule.id source

section
variable {book : Book}

theorem Records.covers {rules : List Rule} (h : Records book rules) : Covers book rules := by
  intro rule hr source hs
  exact h rule hr source (Option.filter_eq_some_iff.1 hs).1

theorem Alike.map {α β : Type} {a b : α × PatternCache} (h : Alike book a b) (f : α → β) :
    Alike book (a.map f id) (b.map f id) :=
  ⟨congrArg f h.answer, h.left, h.right⟩

variable (unambiguous : book.Unambiguous) (lookup : Option ReferenceLookup)
include unambiguous

/-- Two sound caches answer a call alike. -/
theorem alike_answer {call : Call} (records : Records book call.rules) {c d : PatternCache}
    (hc : Sound book c) (hd : Sound book d) :
    Alike book (call.answer lookup c) (call.answer lookup d) := by
  cases call with
  | prepare rules => exact (alike_prepare records.covers hc hd).map _
  | pattern rule =>
    have written := records rule (List.mem_singleton_self rule)
    exact (alike_fetch unambiguous written hc hd).map _
  | check rule field value =>
    exact (alike_check unambiguous lookup records.covers field value hc hd).map _
  | checkField field value rules =>
    exact (alike_checkField unambiguous lookup records.covers field value hc hd).map _
  | checkRecord settings rules record =>
    exact (alike_checkRecord unambiguous lookup records.covers settings record hc hd).map _
  | checkRecords settings rules batch =>
    exact (alike_checkRecords unambiguous lookup records.covers settings batch hc hd).map _

/-! ## Many calls -/

/-- After any calls a sound cache is sound, and every call had the answer that an empty cache gives. -/
theorem Sound.run {calls : List Call} (records : ∀ call ∈ calls, Records book call.rules)
    {cache : PatternCache} (sound : Sound book cache) :
    (cache.run lookup calls).1 = calls.map (fun call => (call.answer lookup empty).1) ∧
      Sound book (cache.run lookup calls).2 := by
  induction calls generalizing cache with
  | nil => exact ⟨rfl, sound⟩
  | cons call rest ih =>
    obtain ⟨answer, here, -⟩ := alike_answer unambiguous lookup (records call List.mem_cons_self) sound
      (sound_empty book)
    obtain ⟨answers, after⟩ := ih (fun other ho => records other (List.mem_cons_of_mem call ho)) here
    refine ⟨?_, after⟩
    rw [List.map_cons, ← answer, ← answers]
    rfl

end

/-! ## Rules that share patterns -/

theorem pattern_of_pattern? {rule : Rule} {source : Text} (h : rule.pattern? = some source) :
    rule.pattern = some source :=
  (Option.filter_eq_some_iff.1 h).1

theorem consistent_of_sharePatterns {rules : List Rule} (shared : Rule.SharePatterns rules) :
    Consistent Rule.pattern? rules := by
  intro a ha b hb same source hs other ho
  have patterns := shared a ha b hb same
  rw [pattern_of_pattern? hs, pattern_of_pattern? ho] at patterns
  exact Option.some.inj patterns

/-- Whatever is asked in whatever order, starting from an empty cache: as long as rules with the same
identifier share their pattern, every cached pattern is the one of a rule with its identifier, as it is read;
an identifier is noted as malformed only if its pattern is; no identifier is both; and every answer is what
an empty cache answers to the same call. -/
theorem run_empty (lookup : Option ReferenceLookup) (calls : List Call)
    (shared : Rule.SharePatterns (calls.flatMap Call.rules)) :
    let cache := (empty.run lookup calls).2
    (∀ id cached, (id, cached) ∈ cache.compiled →
      (∃ rule ∈ calls.flatMap Call.rules, rule.id = id ∧ rule.pattern = some cached.source) ∧
        Regex.Pattern.read cached.source = .ok cached.pattern) ∧
    (∀ id ∈ cache.malformed, ∃ rule ∈ calls.flatMap Call.rules, ∃ source,
      rule.id = id ∧ rule.pattern = some source ∧ Regex.Pattern.read source = .error .malformed) ∧
    (∀ id ∈ cache.malformed, id ∉ cache.compiled.map Prod.fst) ∧
    (empty.run lookup calls).1 = calls.map fun call => (call.answer lookup empty).1 := by
  intro cache
  have unambiguous := unambiguous_bookOf (consistent_of_sharePatterns shared)
  have records : ∀ call ∈ calls,
      Records (bookOf Rule.pattern? (calls.flatMap Call.rules)) call.rules := by
    intro call hc rule hr source hs
    exact ⟨rule, List.mem_flatMap.2 ⟨call, hc, hr⟩, rfl, hs⟩
  obtain ⟨answers, sound⟩ := (sound_empty _).run unambiguous lookup records
  refine ⟨?_, ?_, ?_, answers⟩
  · intro id cached h
    obtain ⟨⟨rule, hr, same, written⟩, read⟩ := sound.compiled id cached h
    exact ⟨⟨rule, hr, same, pattern_of_pattern? written⟩, read⟩
  · intro id h
    obtain ⟨source, ⟨rule, hr, same, written⟩, read⟩ := sound.malformed id h
    exact ⟨rule, hr, source, same, pattern_of_pattern? written, read⟩
  · intro id h compiled
    obtain ⟨⟨id, cached⟩, hc, rfl⟩ := List.mem_map.1 compiled
    obtain ⟨written, read⟩ := sound.compiled id cached hc
    obtain ⟨source, other, malformed⟩ := sound.malformed id h
    -- The two patterns are one, and it cannot be read both ways.
    rw [unambiguous id source cached.source other written, read] at malformed
    cases malformed

/-- One pattern is read while a value is checked, the other one, which is malformed, only when the patterns
are prepared; what was known before does not show in the answers. -/
theorem run_empty_checkedFirst :
    let digits := patternRule "D" "COUNT" "[0-9]+" 1
    let broken := patternRule "B" "COUNT" "(" 2
    let calls : List Call := [.check digits "COUNT" (some "17"), .prepare [broken, digits],
      .check broken "COUNT" (some "x")]
    Rule.SharePatterns (calls.flatMap Call.rules) ∧
      (empty.run none calls).2.malformed = ["B".toList] ∧
      "B".toList ∉ (empty.run none calls).2.compiled.map Prod.fst ∧
      (empty.run none calls).1 = calls.map fun call => (call.answer none empty).1 := by
  intro digits broken calls
  have shared : Rule.SharePatterns (calls.flatMap Call.rules) := by decide
  have malformed : (empty.run none calls).2.malformed = ["B".toList] := by decide +kernel
  obtain ⟨-, -, apart, answers⟩ := run_empty none calls shared
  refine ⟨shared, malformed, ?_, answers⟩
  apply apart
  rw [malformed]
  exact List.mem_singleton_self _

end PatternCache
end FixedExtract
