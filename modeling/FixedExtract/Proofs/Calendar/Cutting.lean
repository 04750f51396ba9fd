import FixedExtract.Calendar.Pattern
import Mathlib.Data.List.Basic
/-!
# How a pattern is cut

From left to right, the longest field that stands at a place is cut off, or a literal between two apostrophes where no
field stands, or else one character. So the parts, as they are written, make up the pattern, and there is no other way
of cutting it by this rule.
-/

namespace FixedExtract.DatePattern

variable {f g : Field} {part : Part} {parts : List Part} {c : Char} {pattern rest : Text}

/-! ## Letters of fields -/

namespace Field

theorem mem_all (f : Field) : f ∈ all := by
  cases f with
  | number unit padded => cases unit <;> cases padded <;> decide
  | year | yearOfCentury | monthName | shortMonthName | millisecond | halfDay => decide

theorem letters_ne_nil (f : Field) : f.letters ≠ [] := by
  have written : ∀ f ∈ all, f.letters ≠ [] := by decide
  exact written f f.mem_all

theorem apostrophe_notMem_letters (f : Field) : '\x27' ∉ f.letters := by
  have absent : ∀ f ∈ all, '\x27' ∉ f.letters := by decide
  exact absent f f.mem_all

theorem letters_injective (h : f.letters = g.letters) : f = g := by
  have apart : ∀ f ∈ all, ∀ g ∈ all, f.letters = g.letters → f = g := by decide
  exact apart f f.mem_all g g.mem_all h

/-- The field that is recognised at the front of a text. -/
def at? (text : Text) : Option Field := all.find? fun f => f.letters.isPrefixOf text

theorem at?_eq_none_iff {text : Text} : at? text = none ↔ ∀ f : Field, ¬ f.letters <+: text := by
  simp only [at?, List.find?_eq_none, List.isPrefixOf_iff_prefix]
  exact ⟨fun h f => h f f.mem_all, fun h f _ => h f⟩

/-- The longest field that stands at the front is recognised: of two that start alike it is tried first. -/
theorem at?_eq_some_iff {text : Text} :
    at? text = some f ↔ f.letters <+: text ∧ ∀ g : Field, g.letters <+: text → g.letters.length ≤ f.letters.length := by
  have sound : ∀ {f}, at? text = some f →
      f.letters <+: text ∧ ∀ g : Field, g.letters <+: text → g.letters.length ≤ f.letters.length := by
    intro f found
    have longerFirst : all.Pairwise fun f g => ¬ f.letters <+: g.letters := by decide
    obtain ⟨here, before, after, split, earlier⟩ := List.find?_eq_some_iff_append.1 found
    rw [List.isPrefixOf_iff_prefix] at here
    refine ⟨here, fun g stands => ?_⟩
    have member := g.mem_all
    rw [split, List.mem_append, List.mem_cons] at member
    rcases member with triedBefore | rfl | triedLater
    · have misses := earlier g triedBefore
      rw [List.isPrefixOf_iff_prefix.2 stands] at misses
      cases misses
    · exact Nat.le_refl _
    · rw [split, List.pairwise_append] at longerFirst
      have notPrefix := (List.pairwise_cons.1 longerFirst.2.1).1 g triedLater
      exact Nat.le_of_not_le fun longer => notPrefix (List.prefix_of_prefix_length_le here stands longer)
  refine ⟨sound, fun ⟨here, longest⟩ => ?_⟩
  cases found : at? text with
  | none => exact absurd here (at?_eq_none_iff.1 found f)
  | some g =>
    -- Two longest fields have the same letters.
    obtain ⟨stands, longestG⟩ := sound found
    have prefixes := List.prefix_of_prefix_length_le stands here (longest g stands)
    rw [letters_injective (prefixes.eq_of_length_le (longestG f here))]

/-- No field begins with an apostrophe. -/
theorem at?_apostrophe (rest : Text) : at? ('\x27' :: rest) = none := by
  rw [at?_eq_none_iff]
  intro f stands
  obtain ⟨c, more, letters⟩ := List.exists_cons_of_ne_nil f.letters_ne_nil
  have absent := f.apostrophe_notMem_letters
  rw [letters, List.cons_prefix_cons] at stands
  rw [letters, stands.1] at absent
  exact absent List.mem_cons_self

end Field

/-! ## Cutting -/

/-- The part is cut off in front of this rest: there is no longer field in its place, no apostrophe inside the literal,
and where it is a single character, neither a field nor the two apostrophes of a literal. -/
def Part.Leads : Part → Text → Prop
  | .field f, rest => ∀ g : Field, g.letters <+: f.letters ++ rest → g.letters.length ≤ f.letters.length
  | .quoted text, _ => '\x27' ∉ text
  | .plain c, rest => (∀ g : Field, ¬ g.letters <+: c :: rest) ∧ (c = '\x27' → '\x27' ∉ rest)

/-- The pattern is cut into these parts from left to right. -/
inductive Cut : Text → List Part → Prop
  | nil : Cut [] []
  | cons {part : Part} {rest : Text} {parts : List Part} (leads : part.Leads rest) (more : Cut rest parts) :
      Cut (part.written ++ rest) (part :: parts)

theorem Cut.flatMap_written (cut : Cut pattern parts) : parts.flatMap Part.written = pattern := by
  induction cut with
  | nil => rfl
  | cons _ _ ih => rw [List.flatMap_cons, ih]

theorem Part.written_ne_nil (part : Part) : part.written ≠ [] := by
  cases part with
  | field f => exact f.letters_ne_nil
  | quoted text => exact List.cons_ne_nil _ _
  | plain c => exact List.cons_ne_nil _ _

theorem Part.first_eq (c : Char) (rest : Text) : Part.first c rest =
    match Field.at? (c :: rest) with
    | some f => .field f
    | none =>
      if c = '\x27' ∧ '\x27' ∈ rest then .quoted (rest.takeWhile (· ≠ '\x27')) else .plain c := rfl

/-- A literal ends at the first apostrophe behind the one that opens it. -/
theorem takeWhile_literal {text : Text} (apart : '\x27' ∉ text) (rest : Text) :
    (text ++ '\x27' :: rest).takeWhile (· ≠ '\x27') = text := by
  have inside : ∀ d ∈ text, decide (d ≠ '\x27') = true := fun d hd => decide_eq_true (ne_of_mem_of_not_mem hd apart)
  rw [List.takeWhile_append_of_pos inside, List.takeWhile_cons_of_neg (by simp), List.append_nil]

theorem Part.written_quoted_append (text rest : Text) :
    (Part.quoted text).written ++ rest = '\x27' :: (text ++ '\x27' :: rest) := by
  simp [Part.written]

/-- The part at the front of a pattern is the one that leads it. -/
theorem Part.Leads.first_eq (leads : part.Leads rest) (written : part.written ++ rest = c :: pattern) :
    Part.first c pattern = part := by
  rw [Part.first_eq]
  cases part with
  | field f =>
    have found : Field.at? (c :: pattern) = some f := by
      rw [← written]
      exact Field.at?_eq_some_iff.2 ⟨List.prefix_append _ _, leads⟩
    rw [found]
  | quoted text =>
    rw [Part.written_quoted_append] at written
    obtain ⟨rfl, rfl⟩ := List.cons.inj written
    have closed : '\x27' ∈ text ++ '\x27' :: rest := List.mem_append_right _ List.mem_cons_self
    rw [Field.at?_apostrophe]
    dsimp only
    rw [if_pos ⟨rfl, closed⟩, takeWhile_literal leads]
  | plain d =>
    obtain ⟨rfl, rfl⟩ : d = c ∧ rest = pattern := List.cons.inj written
    rw [Field.at?_eq_none_iff.2 leads.1]
    dsimp only
    rw [if_neg fun quoted => leads.2 quoted.1 quoted.2]

/-- Every pattern that is not empty is led by a part. -/
theorem exists_leads (c : Char) (pattern : Text) :
    ∃ (part : Part) (rest : Text), part.written ++ rest = c :: pattern ∧ part.Leads rest := by
  cases found : Field.at? (c :: pattern) with
  | some f =>
    obtain ⟨⟨rest, written⟩, longest⟩ := Field.at?_eq_some_iff.1 found
    refine ⟨.field f, rest, written, ?_⟩
    rwa [← written] at longest
  | none =>
    by_cases quoted : c = '\x27' ∧ '\x27' ∈ pattern
    · obtain ⟨rfl, closed⟩ := quoted
      obtain ⟨text, rest, rfl, apart⟩ := List.eq_append_cons_of_mem closed
      exact ⟨.quoted text, rest, Part.written_quoted_append text rest, apart⟩
    · refine ⟨.plain c, pattern, rfl, Field.at?_eq_none_iff.1 found, ?_⟩
      exact fun apostrophe closed => quoted ⟨apostrophe, closed⟩

/-! ## The parts of a pattern -/

theorem partsAfter_eq (skip : Nat) (pattern : Text) : partsAfter skip pattern = partsOf (pattern.drop skip) := by
  induction pattern generalizing skip with
  | nil => cases skip <;> rfl
  | cons c rest ih =>
    cases skip with
    | zero => rfl
    | succ skip => exact ih skip

/-- A part that leads a pattern is its first part. -/
theorem partsOf_append (leads : part.Leads rest) : partsOf (part.written ++ rest) = part :: partsOf rest := by
  obtain ⟨c, more, written⟩ := List.exists_cons_of_ne_nil part.written_ne_nil
  have front : part.written ++ rest = c :: (more ++ rest) := by rw [written, List.cons_append]
  have behind : (more ++ rest).drop (part.written.length - 1) = rest := by
    rw [written, List.length_cons, Nat.add_sub_cancel, List.drop_left]
  rw [front, partsOf, partsAfter, leads.first_eq front, partsAfter_eq, behind]

theorem cut_partsOf (pattern : Text) : Cut pattern (partsOf pattern) := by
  match pattern with
  | [] => exact .nil
  | c :: behind =>
    obtain ⟨part, rest, written, leads⟩ := exists_leads c behind
    have shorter : rest.length < (c :: behind).length := by
      have nonEmpty := List.length_pos_of_ne_nil part.written_ne_nil
      rw [← written, List.length_append]
      omega
    rw [← written, partsOf_append leads]
    exact .cons leads (cut_partsOf rest)
termination_by pattern.length
decreasing_by exact shorter

/-- A pattern is cut in one way only. -/
theorem cut_iff : Cut pattern parts ↔ parts = partsOf pattern := by
  constructor
  · intro cut
    induction cut with
    | nil => rfl
    | cons leads _ ih => rw [partsOf_append leads, ← ih]
  · rintro rfl
    exact cut_partsOf pattern

example : partsOf "yyyMMMMM\x27of\x27%\x27" =
    [.field .yearOfCentury, .plain 'y', .field .monthName, .field (.number .month false), .quoted "of", .plain '%',
      .plain '\x27'] := by decide

end FixedExtract.DatePattern
