import FixedExtract.Proofs.Validation.Cache
/-!
# Blank values

A blank value is no value, and only a rule that requires one has anything to say about it. Whatever else is set for a
rule, be it a pattern that is malformed, a range that is none or a lookup that fails, is not looked at. The one
exception is the length, which is counted for every text that is there.
-/

namespace FixedExtract

variable {lookup : Option ReferenceLookup} {cache : PatternCache} {rule : Rule} {field : Text} {value : Option Text}

/-- The pattern of a rule is not asked for. -/
theorem needsPattern_of_blank (blank : Text.isBlank? value = true) : rule.needsPattern value = false := by
  rw [Rule.needsPattern, blank, Bool.not_true, Bool.and_false, Bool.false_and]

namespace Check

/-- The verdict on a value that is not looked at. -/
def unseen (rule : Rule) : Verdict :=
  if rule.kind = .businessRule then .warn ("Unsupported validation rule type: " ++ rule.kind.name) else .pass

theorem verdict_of_blank (found : FoundPattern) (blank : Text.isBlank? value = true)
    (notRequired : rule.kind ≠ .required) (notLength : rule.kind ≠ .length) :
    verdict lookup found rule field value = .ok (unseen rule) := by
  cases value with
  | none => cases kind : rule.kind <;> simp_all [verdict, unseen]
  | some text =>
    rw [Text.isBlank?] at blank
    cases kind : rule.kind <;> simp_all [verdict, unseen]

/-- What is not looked at is valid, and there is nothing wrong with it. -/
theorem result_unseen (rule : Rule) (field : Text) (value : Option Text) :
    ((unseen rule).result rule field value).valid = true ∧ ((unseen rule).result rule field value).error = none := by
  unfold unseen
  split
  · exact ⟨rfl, rfl⟩
  · exact ⟨rfl, rfl⟩

end Check

namespace PatternCache

/-- A rule that neither requires a value nor counts its length does not look at a blank one, and has no pattern read for
it. -/
theorem check_of_unseen (blank : Text.isBlank? value = true) (notRequired : rule.kind ≠ .required)
    (notLength : rule.kind ≠ .length) :
    cache.check lookup rule field value = ((Check.unseen rule).result rule field value, cache) := by
  rw [check_of_unneeded (needsPattern_of_blank blank), Check.result,
    Check.verdict_of_blank none blank notRequired notLength]

/-- There is no length to count where there is no text. -/
theorem check_length_none (length : rule.kind = .length) :
    cache.check lookup rule field none = (.success field none rule.tag, cache) := by
  have verdict : Check.verdict lookup none rule field none = .ok .pass := by
    unfold Check.verdict
    rw [length]
  rw [check_of_unneeded (needsPattern_of_blank rfl), Check.result, verdict]
  rfl

theorem check_required (required : rule.kind = .required) :
    cache.check lookup rule field value = ((Check.required rule field value).result rule field value, cache) := by
  have unneeded : rule.needsPattern value = false := by
    rw [Rule.needsPattern, required]
    rfl
  have verdict : Check.verdict lookup none rule field value = .ok (Check.required rule field value) := by
    unfold Check.verdict
    rw [required]
  rw [check_of_unneeded unneeded, Check.result, verdict]

/-- However a rule is set up, and whatever was checked before: a blank value is valid, with no error, for every rule
that neither requires a value nor counts its length. A missing value is valid for a rule about the length too. A rule
that requires a value fails on every blank one, if it is marked as required, and on none if it is not. -/
theorem check_blank (blank : Text.isBlank? value = true) :
    (rule.kind ≠ .required → rule.kind ≠ .length →
      (cache.check lookup rule field value).1.valid = true ∧ (cache.check lookup rule field value).1.error = none) ∧
    (rule.kind = .length → value = none → (cache.check lookup rule field value).1.valid = true) ∧
    (rule.kind = .required → ((cache.check lookup rule field value).1.valid = false ↔ rule.required = true)) := by
  refine ⟨?_, ?_, ?_⟩
  · intro notRequired notLength
    rw [check_of_unseen blank notRequired notLength]
    exact Check.result_unseen rule field value
  · intro length missing
    rw [missing, check_length_none length]
    rfl
  · intro required
    rw [check_required required, Check.required, blank, Bool.and_true]
    cases rule.required with
    | true => exact iff_of_true rfl rfl
    | false => exact iff_of_false nofun nofun

/-- A rule that nothing is set up well for: its pattern is malformed, its range and its data type are none. -/
def brokenRule (kind : RuleKind) : Rule :=
  { patternRule "R" "CODE" "(" 1 with
    kind := kind, range := some "?", dataType := some "?", minLength := some 5, required := true }

/-- A lookup that always fails. -/
def brokenLookup : ReferenceLookup := fun _ _ _ => .error "unreachable"

theorem check_blank_brokenRule :
    let result (kind : RuleKind) (value : Option Text) :=
      (empty.check (some brokenLookup) (brokenRule kind) "CODE" value).1
    Text.isBlank? (some " \t") = true ∧
      (∀ kind ∈ [.email, .dataType, .range, .referentialIntegrity],
        (result kind (some " \t")).valid = true ∧ (result kind (some " \t")).error = none) ∧
      (result .length none).valid = true ∧ (result .required (some " \t")).valid = false := by
  intro result
  have blank : Text.isBlank? (some " \t") = true := by decide
  refine ⟨blank, ?_, ?_, ?_⟩
  · intro kind member
    have other : kind ≠ .required ∧ kind ≠ .length := by
      revert kind
      decide
    exact (check_blank blank).1 other.1 other.2
  · exact (check_blank rfl).2.1 rfl rfl
  · exact ((check_blank blank).2.2 rfl).2 rfl

end PatternCache
end FixedExtract
