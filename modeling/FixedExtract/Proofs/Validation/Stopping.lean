import FixedExtract.Proofs.Ordering
import FixedExtract.Proofs.Traversal
import FixedExtract.Proofs.Validation.History
import Mathlib.Data.Int.Order.Basic
/-!
# How far the rules of a field are executed

The enabled rules of a field are executed in order, up to the first critical one that fails. Each has the result
that it has when it is checked by itself, and that result is the rule's own: the checks never hand on a result
that they did not look up, and a rule that cannot be applied fails with the reason for its message.
-/

namespace FixedExtract

/-! ## Results with their rules -/

/-- The lookup gives results of the rules that it is asked about. -/
def ReferenceLookup.KeepsRules (find : ReferenceLookup) : Prop :=
  ∀ field text rule r, find field text rule = .ok r → r.rule.map RuleTag.id = some rule.id

/-- The verdict is not a result that was looked up. -/
def Verdict.IsOwn : Verdict → Prop
  | .looked _ => False
  | _ => True

theorem Verdict.rule_result_of_isOwn {v : Verdict} (own : v.IsOwn) (rule : Rule) (field : Text)
    (value : Option Text) : (v.result rule field value).rule = some rule.tag := by
  cases v with
  | looked r => exact own.elim
  | pass | fail _ | badPattern | warn _ => rfl

namespace Check

variable {lookup : Option ReferenceLookup} {found : FoundPattern} {rule : Rule} {field : Text} {v : Verdict}

theorem isOwn_ofTest (holds : Bool) (message : Text) : (Verdict.ofTest holds message).IsOwn := by
  cases holds <;> trivial

theorem isOwn_length (rule : Rule) (field text : Text) : (length rule field text).IsOwn := by
  unfold length
  dsimp only
  split
  · trivial
  · split <;> trivial

theorem isOwn_of_form {builtIn : Text → Bool} {text message : Text}
    (h : form found builtIn text message = .ok v) : v.IsOwn := by
  unfold form at h
  split at h
  · cases h
    exact isOwn_ofTest _ _
  · split at h <;> cases h <;> trivial
  · cases h
    trivial
  · cases h

theorem isOwn_of_dataType {text : Text} (h : dataType rule field text = .ok v) : v.IsOwn := by
  unfold dataType at h
  split at h
  · cases h
    trivial
  · split at h
    · cases h
      trivial
    · obtain ⟨holds, -, rfl⟩ := map_eq_ok_iff.1 h
      exact isOwn_ofTest _ _

theorem isOwn_of_bounds {number : Decimal} (h : bounds rule field number = .ok v) : v.IsOwn := by
  unfold bounds at h
  split at h
  · cases h
    trivial
  · split at h
    · cases h
    · cases h
      exact isOwn_ofTest _ _

theorem isOwn_of_numeric {text : Text} (h : numeric rule field text = .ok v) : v.IsOwn := by
  unfold numeric at h
  split at h
  · exact isOwn_of_bounds h
  · cases h
    trivial

theorem isOwn_of_range {text : Text} (h : range rule field text = .ok v) : v.IsOwn := by
  unfold range at h
  split at h
  · exact isOwn_of_bounds h
  · cases h
    trivial

theorem isOwn_of_accountNumber {text : Text} (h : accountNumber found rule field text = .ok v) : v.IsOwn := by
  unfold accountNumber at h
  split at h
  · cases h
    exact isOwn_length _ _ _
  · exact isOwn_of_form h

theorem isOwn_or_looked_of_reference {text : Text} (h : reference lookup rule field text = .ok v) :
    v.IsOwn ∨ ∃ find ∈ lookup, ∃ r, find field text rule = .ok r ∧ v = .looked r := by
  unfold reference at h
  split at h
  · cases h
    exact .inl trivial
  · rename_i find
    split at h
    · rename_i r known
      cases h
      exact .inr ⟨find, rfl, r, known, rfl⟩
    · cases h

/-- A check of a value that is not blank comes to a verdict of its own, or to what the lookup gave. -/
theorem isOwn_or_looked_of_contents {text : Text} (h : contents lookup found rule field text = .ok v) :
    v.IsOwn ∨ ∃ find ∈ lookup, ∃ r, find field text rule = .ok r ∧ v = .looked r := by
  -- Results are handed on by references only, which come last.
  unfold contents at h
  cases kind : rule.kind with
  | required | uniqueField | customQuery | businessRule =>
    rw [kind] at h
    cases h
    exact .inl trivial
  | length =>
    rw [kind] at h
    cases h
    exact .inl (isOwn_length _ _ _)
  | dataType =>
    rw [kind] at h
    exact .inl (isOwn_of_dataType h)
  | pattern | email | phone | socialSecurity =>
    rw [kind] at h
    exact .inl (isOwn_of_form h)
  | accountNumber =>
    rw [kind] at h
    exact .inl (isOwn_of_accountNumber h)
  | numeric =>
    rw [kind] at h
    exact .inl (isOwn_of_numeric h)
  | range =>
    rw [kind] at h
    exact .inl (isOwn_of_range h)
  | dateFormat =>
    rw [kind] at h
    obtain ⟨holds, -, rfl⟩ := map_eq_ok_iff.1 h
    exact .inl (isOwn_ofTest _ _)
  | referentialIntegrity =>
    rw [kind] at h
    exact isOwn_or_looked_of_reference h

theorem isOwn_or_looked {value : Option Text} (h : verdict lookup found rule field value = .ok v) :
    v.IsOwn ∨ ∃ find ∈ lookup, ∃ text ∈ value, ∃ r, find field text rule = .ok r ∧ v = .looked r := by
  unfold verdict at h
  split at h
  · cases h
    exact .inl trivial
  · cases h
    exact .inl (isOwn_ofTest _ _)
  · cases h
    exact .inl (isOwn_length _ _ _)
  · rename_i text _ _ _
    split at h
    · cases h
      exact .inl trivial
    · refine (isOwn_or_looked_of_contents h).imp_right ?_
      rintro ⟨find, asked, r, known, rfl⟩
      exact ⟨find, asked, text, rfl, r, known, rfl⟩
  · cases h
    exact .inl trivial

/-- A result belongs to the rule that is checked. -/
theorem rule_result (keeps : ∀ find ∈ lookup, find.KeepsRules) (found : FoundPattern) (rule : Rule) (field : Text)
    (value : Option Text) : (result lookup found rule field value).rule.map RuleTag.id = some rule.id := by
  unfold result
  cases checked : verdict lookup found rule field value with
  | error trouble => rfl
  | ok v =>
    rcases isOwn_or_looked checked with own | ⟨find, asked, text, -, r, known, rfl⟩
    · rw [Verdict.rule_result_of_isOwn own]
      rfl
    · exact keeps find asked field text rule r known

end Check

/-! ## Rules in turn -/

namespace PatternCache

/-- What is found of the pattern of a rule that is checked by itself. -/
def patternAlone (rule : Rule) (value : Option Text) : Check.FoundPattern :=
  if rule.needsPattern value then some (ownPattern rule) else none

/-- A check by itself has the pattern of its rule read if it is needed. -/
theorem check_empty (lookup : Option ReferenceLookup) (rule : Rule) (field : Text) (value : Option Text) :
    (empty.check lookup rule field value).1 =
      Check.result lookup (patternAlone rule value) rule field value := by
  unfold check patternAlone
  split
  · have shared : Rule.SharePatterns [rule] := by simp [Rule.SharePatterns]
    have written : ∀ source, rule.pattern? = some source → bookOf Rule.pattern? [rule] rule.id source :=
      fun source hs => ⟨rule, List.mem_singleton_self rule, rfl, hs⟩
    have fetched := (sound_empty _).fetch (unambiguous_bookOf (consistent_of_sharePatterns shared)) written
    rw [← fetched.1]
  · rfl

/-- A value for which a malformed pattern is needed is not valid. -/
theorem verdict_of_malformed {lookup : Option ReferenceLookup} {rule : Rule} {field : Text} {value : Option Text}
    (needed : rule.needsPattern value = true) {source : Text} (written : rule.pattern? = some source)
    (malformed : Regex.Pattern.read source = .error .malformed) :
    Check.verdict lookup (patternAlone rule value) rule field value = .ok .badPattern := by
  have found : patternAlone rule value = some (.ok none) := by
    rw [patternAlone, if_pos needed, ownPattern, written]
    simp only [readPattern, malformed]
  rw [found]
  simp only [Rule.needsPattern, Bool.and_eq_true, Bool.not_eq_true'] at needed
  obtain ⟨⟨⟨matching, -⟩, given⟩, -⟩ := needed
  cases value with
  | none => cases given
  | some text =>
    have filled : Text.isBlank text = false := given
    -- Patterns are needed by the kinds that match them, all of which look at the pattern first.
    cases kind : rule.kind with
    | pattern | email | phone | socialSecurity | accountNumber =>
      simp [Check.verdict, Check.contents, Check.accountNumber, Check.form, kind, filled]
    | _ =>
      rw [kind] at matching
      cases matching

/-- A split of rules into those that are executed and those left out: whatever comes before the last of the
former passes or is not critical, and anything is left out only behind a critical rule that fails. -/
structure StopsAtCritical (alone : Rule → FieldResult) (executed left : List Rule) : Prop where
  going : ∀ rule ∈ executed.dropLast, (alone rule).valid = true ∨ rule.severity ≠ .critical
  stopped : left ≠ [] → ∃ last ∈ executed.getLast?, last.severity = .critical ∧ (alone last).valid = false

theorem StopsAtCritical.cons {alone : Rule → FieldResult} {rule : Rule} {executed left : List Rule}
    (goesOn : (alone rule).valid = true ∨ rule.severity ≠ .critical)
    (rest : StopsAtCritical alone executed left) : StopsAtCritical alone (rule :: executed) left := by
  constructor
  · intro other member
    cases executed with
    | nil => cases member
    | cons next executed =>
      rw [List.dropLast_cons_cons, List.mem_cons] at member
      rcases member with rfl | later
      · exact goesOn
      · exact rest.going other later
  · intro some
    obtain ⟨last, isLast, fails⟩ := rest.stopped some
    refine ⟨last, ?_, fails⟩
    rw [List.getLast?_cons, isLast, Option.getD_some]
    rfl

section
variable {book : Book} (unambiguous : book.Unambiguous) (lookup : Option ReferenceLookup) (field : Text)
  (value : Option Text)
include unambiguous

/-- Rules are executed up to the first critical one that fails, each with the result that it has by itself. -/
theorem exists_stopsAtCritical {rules : List Rule} (covers : Covers book rules) {cache : PatternCache}
    (sound : Sound book cache) :
    let alone := fun rule => (empty.check lookup rule field value).1
    ∃ executed left, rules = executed ++ left ∧ (rules ≠ [] → executed ≠ []) ∧
      (cache.checkInOrder lookup field value rules).1 = executed.map alone ∧
      StopsAtCritical alone executed left := by
  intro alone
  -- The cache fills up on the way, but as long as it is sound a rule is answered as by an empty one.
  induction rules generalizing cache with
  | nil => exact ⟨[], [], rfl, id, rfl, fun _ h => (by cases h), fun h => absurd rfl h⟩
  | cons rule rest ih =>
    have one : Covers book [rule] := covers.mono fun other h => List.mem_singleton.1 h ▸ List.mem_cons_self
    obtain ⟨answer, after, -⟩ := alike_check unambiguous lookup one field value sound (sound_empty book)
    obtain ⟨executed, left, rfl, -, results, stops⟩ :=
      ih (covers.mono fun other => List.mem_cons_of_mem rule) after
    have first : (cache.check lookup rule field value).1 = alone rule := answer
    rw [checkInOrder]
    dsimp only
    rw [first]
    by_cases fails : (!(alone rule).valid && rule.isCritical) = true
    · rw [if_pos fails]
      rw [Bool.and_eq_true, Bool.not_eq_true', Rule.isCritical, decide_eq_true_eq] at fails
      refine ⟨[rule], executed ++ left, rfl, fun _ => List.cons_ne_nil _ _, rfl, ?_, ?_⟩
      · intro other member
        cases member
      · intro _
        exact ⟨rule, rfl, fails.2, fails.1⟩
    · rw [if_neg fails, results]
      rw [Bool.and_eq_true, Bool.not_eq_true', Rule.isCritical, decide_eq_true_eq] at fails
      have goesOn : (alone rule).valid = true ∨ rule.severity ≠ .critical := by
        by_cases passed : (alone rule).valid = true
        · exact .inl passed
        · exact .inr fun critical => fails ⟨Bool.eq_false_iff.2 passed, critical⟩
      exact ⟨rule :: executed, left, rfl, fun _ => List.cons_ne_nil _ _, rfl, .cons goesOn stops⟩

end

theorem checkField_of_ne_nil {lookup : Option ReferenceLookup} {cache : PatternCache} {field : Text}
    {value : Option Text} {rules : List Rule} (some : Rule.sort (rules.filter Rule.enabled) ≠ []) :
    cache.checkField lookup field value rules =
      cache.checkInOrder lookup field value (Rule.sort (rules.filter Rule.enabled)) := by
  unfold checkField
  split
  · rename_i none
    exact absurd none some
  · rfl

/-- A single enabled rule has its own result and no other. -/
theorem checkField_singleton (lookup : Option ReferenceLookup) (cache : PatternCache) (field : Text)
    (value : Option Text) {rule : Rule} (enabled : rule.enabled = true) :
    (cache.checkField lookup field value [rule]).1 = [(cache.check lookup rule field value).1] := by
  have active : Rule.sort ([rule].filter Rule.enabled) = [rule] := by
    rw [List.filter_cons_of_pos enabled, List.filter_nil, Rule.sort, List.mergeSort_singleton]
  have some : Rule.sort ([rule].filter Rule.enabled) ≠ [] := by
    rw [active]
    exact List.cons_ne_nil rule []
  rw [checkField_of_ne_nil some, active, checkInOrder]
  dsimp only
  split <;> rfl

/-- A value that is checked against no enabled rule is valid. Otherwise the enabled rules are taken in execution
order, those of one order as they are given, and executed up to the first critical one that fails; each of them
has one result, which is its own and is what it comes to by itself. A rule that cannot be applied, because of
what it asks for or because the lookup fails, has a failed result with the reason. -/
theorem checkField_executes (lookup : Option ReferenceLookup) (field : Text) (value : Option Text)
    (rules : List Rule) (shared : Rule.SharePatterns rules) (keeps : ∀ find ∈ lookup, find.KeepsRules) :
    let alone := fun rule => (empty.check lookup rule field value).1
    let enabled := rules.filter Rule.enabled
    let results := (empty.checkField lookup field value rules).1
    (enabled = [] → results = [.success field value none]) ∧
    (enabled ≠ [] → ∃ executed left, SortedBy Rule.order enabled (executed ++ left) ∧ executed ≠ [] ∧
      results = executed.map alone ∧
      results.map (fun r => r.rule.map RuleTag.id) = executed.map (fun rule => some rule.id) ∧
      StopsAtCritical alone executed left) ∧
    (∀ rule ∈ enabled, (empty.checkField lookup field value [rule]).1 = [alone rule]) ∧
    (∀ rule trouble, Check.verdict lookup (patternAlone rule value) rule field value = .error trouble →
      alone rule = .failure field value rule.tag ("Validation error: " ++ trouble.message)) ∧
    (∀ rule source, rule.needsPattern value = true → rule.pattern? = some source →
      Regex.Pattern.read source = .error .malformed →
      alone rule = .failure field value rule.tag "Invalid validation pattern configured") ∧
    (∀ find ∈ lookup, ∀ text ∈ value, Text.isBlank text = false →
      ∀ rule, rule.kind = .referentialIntegrity → ∀ message, find field text rule = .error message →
        alone rule = .failure field value rule.tag ("Validation error: " ++ message)) := by
  intro alone enabled results
  have unambiguous := unambiguous_bookOf (consistent_of_sharePatterns shared)
  have records : Records (bookOf Rule.pattern? rules) rules := fun rule hr source hs => ⟨rule, hr, rfl, hs⟩
  have troubled : ∀ rule trouble,
      Check.verdict lookup (patternAlone rule value) rule field value = .error trouble →
      alone rule = .failure field value rule.tag ("Validation error: " ++ trouble.message) := by
    intro rule trouble h
    show (empty.check lookup rule field value).1 = _
    rw [check_empty, Check.result, h]
  refine ⟨?_, ?_, ?_, troubled, ?_, ?_⟩
  · intro none
    show (empty.checkField lookup field value rules).1 = _
    rw [checkField, show rules.filter Rule.enabled = [] from none, Rule.sort, List.mergeSort_nil]
  · intro some
    have sorted : SortedBy Rule.order enabled (Rule.sort enabled) := sortedBy_mergeSort Rule.order enabled
    obtain ⟨executed, left, split, all, outcome, stops⟩ :=
      exists_stopsAtCritical unambiguous lookup field value
        (records.covers.mono mem_of_mem_active) (sound_empty _)
    have active : Rule.sort enabled ≠ [] := fun none =>
      some (sorted.perm.symm.trans (.of_eq none)).eq_nil
    have executes : results = executed.map alone := by
      show (empty.checkField lookup field value rules).1 = _
      rw [checkField_of_ne_nil active, outcome]
    refine ⟨executed, left, split ▸ sorted, all active, executes, ?_, stops⟩
    rw [executes, List.map_map]
    refine List.map_congr_left fun rule _ => ?_
    show (empty.check lookup rule field value).1.rule.map RuleTag.id = _
    rw [check_empty]
    exact Check.rule_result keeps _ rule field value
  · intro rule member
    exact checkField_singleton lookup empty field value (List.mem_filter.1 member).2
  · intro rule source needed written malformed
    show (empty.check lookup rule field value).1 = _
    rw [check_empty, Check.result, verdict_of_malformed needed written malformed]
    rfl
  · rintro find asked text given written rule kind message raised
    refine troubled rule (.lookup message) ?_
    cases asked
    cases given
    simp [Check.verdict, Check.contents, Check.reference, kind, written, raised]

/-- The second rule in execution order is critical, and its lookup fails; the rule of the same order behind it is
left out, and so is one that is not enabled. -/
theorem checkField_executes_failedLookup :
    let find : ReferenceLookup := fun field text rule =>
      if text = "AT".toList then .error "table is closed" else .ok (.success field (some text) (some rule.tag))
    let known : Rule := { patternRule "K" "LAND" [] 2 with kind := .referentialIntegrity, severity := .critical }
    let letters := patternRule "L" "LAND" "[A-Z]+" 2
    let short : Rule := { patternRule "S" "LAND" [] (-1) with kind := .length, maxLength := some 1 }
    let unused : Rule := { short with id := "U", enabled := false, severity := .critical }
    let rules := [known, unused, letters, short]
    let alone := fun rule => (empty.check (some find) rule "LAND" (some "AT")).1
    let results := (empty.checkField (some find) "LAND" (some "AT") rules).1
    Rule.SharePatterns rules ∧ find.KeepsRules ∧
      alone known = .failure "LAND" (some "AT") (some known.tag) "Validation error: table is closed" ∧
      ∃ executed left, SortedBy Rule.order [known, letters, short] (executed ++ left) ∧
        executed.map (some ∘ Rule.id) = [some "S".toList, some "K".toList] ∧ results = executed.map alone ∧
        StopsAtCritical alone executed left := by
  intro find known letters short unused rules alone results
  have shared : Rule.SharePatterns rules := by decide
  have keeps : find.KeepsRules := by
    intro field text rule r h
    change (if text = "AT".toList then _ else _) = _ at h
    split at h
    · cases h
    · cases h
      rfl
  have sorted : Rule.sort (rules.filter Rule.enabled) = [short, known, letters] := by
    have enabled : rules.filter Rule.enabled = [known, letters, short] := rfl
    rw [enabled]
    simp [Rule.sort, List.mergeSort, List.MergeSort.Internal.splitInTwo, Rule.inOrder, short, known, letters,
      patternRule]
  have executedFirst : results.map (fun r => r.rule.map RuleTag.id) = [some "S".toList, some "K".toList] := by
    have inOrder : results = (empty.checkInOrder (some find) "LAND" (some "AT") [short, known, letters]).1 := by
      show (empty.checkField (some find) "LAND" (some "AT") rules).1 = _
      rw [checkField, sorted]
    rw [inOrder]
    decide +kernel
  obtain ⟨-, executes, -, -, -, failed⟩ := checkField_executes (some find) "LAND" (some "AT") rules shared
    (by rintro _ ⟨⟩; exact keeps)
  obtain ⟨executed, left, order, -, outcome, ids, stops⟩ := executes (by decide)
  refine ⟨shared, keeps, ?_, executed, left, order, ?_, outcome, stops⟩
  · exact failed find rfl "AT" rfl (by decide) known rfl "table is closed" rfl
  · exact ids.symm.trans executedFirst

end PatternCache
end FixedExtract
