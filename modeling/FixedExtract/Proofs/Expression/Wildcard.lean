import FixedExtract.Proofs.Expression.Spelling
import FixedExtract.Proofs.Regex.Reading
/-!
# What patterns with wildcards match

The regular expression for a pattern has one item for each character of it, since the characters that have a meaning
of their own are escaped, and its program has one step for each of them. So a text is matched exactly when it can be
cut into pieces that the characters stand for, however many ways of cutting there are.
-/

namespace FixedExtract
namespace Wildcard

open Regex

/-! ## Pieces -/

/-- What a character of a pattern stands for: `%` for any run of characters, `_` for any one, and every other
character for itself. -/
def Stands (c : Char) (piece : Text) : Prop :=
  if c = '%' then True else if c = '_' then piece.length = 1 else piece = [c]

/-- The text can be cut into pieces that the characters of the pattern stand for, in order. -/
def Covers (pattern text : Text) : Prop :=
  ∃ pieces : List Text, pieces.flatten = text ∧ List.Forall₂ Stands pattern pieces

/-! ## Reading the expression -/

/-- The tokens of the expression for one character. -/
def tokensOfChar (c : Char) : List Token :=
  if c = '%' then [.plain '.', .plain '*']
  else if c = '_' then [.plain '.']
  else if specialChars.elem c then [.escaped c]
  else [.plain c]

/-- The item that is read for one character. -/
def itemOfChar (c : Char) : Item :=
  if c = '%' then .repeated .greedy 0 none [.any] else if c = '_' then .any else .literal c.toNat

theorem tokensOfChar_of_literal {c : Char} (percent : c ≠ '%') (underscore : c ≠ '_') :
    tokensOfChar c = [literalToken c] := by
  rw [tokensOfChar, if_neg percent, if_neg underscore, literalToken]
  split <;> rfl

theorem tokensOf_source (pattern : Text) : tokensOf (source pattern) = pattern.flatMap tokensOfChar := by
  induction pattern with
  | nil => rfl
  | cons c rest ih =>
    rw [source, List.flatMap_cons, List.flatMap_cons, ← ih, source]
    unfold sourceOfChar tokensOfChar escape
    split
    · rfl
    · split
      · rfl
      · split
        · rfl
        · next plain =>
          exact tokensOf_plain (ne_of_elem_special (Bool.eq_false_iff.2 plain) (by decide)) _

/-- Each character of a pattern is read as one item. -/
theorem readsAs_tokensOfChar (c : Char) : ReadsAs (tokensOfChar c) [itemOfChar c] := by
  have point : ReadsItem [.plain '.'] .any := fun _ _ _ _ _ => rfl
  by_cases percent : c = '%'
  · subst percent
    -- The star takes up the item of the point into the run.
    show ReadsAs ([.plain '.'] ++ [.plain '*']) [.repeated .greedy 0 none [.any]]
    exact point.repeated rfl (by decide) (fun _ => rfl) rfl rfl
  · by_cases underscore : c = '_'
    · subst underscore
      exact point.readsAs rfl
    · have item : itemOfChar c = .literal c.toNat := by rw [itemOfChar, if_neg percent, if_neg underscore]
      rw [tokensOfChar_of_literal percent underscore, item]
      exact readsAs_literalToken c

theorem unwrapGroups_itemOfChar (c : Char) : unwrapGroups [itemOfChar c] = [itemOfChar c] := by
  unfold itemOfChar
  split
  · rfl
  · split <;> rfl

/-- The flags of the expression for a pattern. -/
def flags : Flags := { Flags.none with unicode := true, dotAll := true }

/-- The expression for a pattern is always well formed. -/
theorem expression_eq (pattern : Text) : expression pattern = .ok ⟨flags, pattern.map itemOfChar⟩ := by
  have reads : ReadsAs (tokensOf (source pattern)) (pattern.map itemOfChar) := by
    rw [tokensOf_source, List.map_eq_flatMap]
    exact .flatMap fun c _ => readsAs_tokensOfChar c
  have apart : ∀ item ∈ pattern.map itemOfChar, unwrapGroups [item] = [item] := by
    rintro _ member
    obtain ⟨c, -, rfl⟩ := List.mem_map.1 member
    exact unwrapGroups_itemOfChar c
  rw [expression, reads.read apart]
  rfl

/-! ## Matching the expression -/

/-- The step for one character. -/
def stepOfChar (c : Char) : Step :=
  if c = '%' then .run .greedy 0 none (.any true)
  else if c = '_' then .test (.any true)
  else .test (.equal .none false c.toNat)

theorem stepsOf_items (pattern : Text) : stepsOf flags (pattern.map itemOfChar) = pattern.map stepOfChar := by
  induction pattern with
  | nil => rfl
  | cons c rest ih =>
    rw [List.map_cons, List.map_cons, stepsOf, ih]
    unfold itemOfChar stepOfChar
    split
    · rfl
    · split <;> rfl

theorem isTaking_stepOfChar (c : Char) : (stepOfChar c).isTaking = true := by
  unfold stepOfChar
  split
  · rfl
  · split <;> rfl

/-- The step for a character takes what the character stands for. -/
theorem takes_stepOfChar {c : Char} {piece : Text} : (stepOfChar c).Takes piece ↔ Stands c piece := by
  unfold stepOfChar Stands
  split
  · simp [Step.Takes, Test.holds]
  · split
    · simp [Step.Takes, Test.holds, List.length_eq_one_iff]
    · simp [Step.Takes, Test.holds, Fold.lower, Char.toNat_inj]

/-- Every pattern has an expression, which matches just the texts that the pattern covers. -/
theorem exists_expression (pattern : Text) :
    ∃ e, expression pattern = .ok e ∧ ∀ text : Text,
      (e.find text = .matched ↔ Covers pattern text) ∧ e.find text ≠ .crossed := by
  refine ⟨_, expression_eq pattern, fun text => ?_⟩
  have program : Pattern.program ⟨flags, pattern.map itemOfChar⟩ = pattern.map stepOfChar := stepsOf_items pattern
  have taking : ∀ step ∈ Pattern.program ⟨flags, pattern.map itemOfChar⟩, step.isTaking = true := by
    rw [program]
    rintro _ member
    obtain ⟨c, -, rfl⟩ := List.mem_map.1 member
    exact isTaking_stepOfChar c
  have spelled : SpelledBy Step.Takes (pattern.map stepOfChar) text ↔ Covers pattern text := by
    have takes : (fun c => (stepOfChar c).Takes) = Stands := funext₂ fun _ _ => propext takes_stepOfChar
    rw [spelledBy_map, takes]
    exact Iff.rfl
  have found := Pattern.find_of_isTaking taking text
  rwa [program, spelled] at found

theorem accepts_iff (pattern text : Text) : accepts pattern text = true ↔ Covers pattern text := by
  obtain ⟨e, he, finds⟩ := exists_expression pattern
  rw [accepts, he]
  exact beq_iff_eq.trans (finds text).1

end Wildcard

namespace Expression

/-! ## Tests for a pattern -/

theorem isLike_iff {record : Record} {operand pattern : Operand} :
    isLike record operand pattern = true ↔
      ∃ text p, operand.text? record = some text ∧ pattern.text? record = some p ∧ Wildcard.Covers p text := by
  unfold isLike
  cases operand.text? record with
  | none => simp
  | some text =>
    cases pattern.text? record with
    | none => simp
    | some p => simp [Wildcard.accepts_iff]

theorem spells_like (x pattern : Spelling) :
    Spells (x.text ++ " LIKE " ++ pattern.text) (.like x.operand pattern.operand.onRight) := by
  have words : x.text ++ " LIKE " ++ pattern.text = x.text ++ ' ' :: ("LIKE" ++ ' ' :: pattern.text) := by simp
  have likeWord : IsToken "LIKE" (Grammar.Keyword "LIKE") := isToken_keyword (by decide)
  rw [words]
  refine (x.isAtom.before (likeWord.before pattern.onRight.scans)).imp ?_
  intro ts sorted
  match ts, sorted with
  | [_, _, _], ⟨atom, word, patternAtom, _⟩ => exact .like atom word patternAtom

/-- A test for a pattern holds exactly when both sides have a text and the text on the left can be cut into pieces that
the characters of the pattern stand for, in order; a test that is spelled with any two operands is evaluated to just
that. Matching comes to an answer for every pattern and every text. -/
theorem evaluate_like (record : Record) :
    (∀ operand pattern : Operand, (Node.like operand pattern).holds record = true ↔
      ∃ text p, operand.text? record = some text ∧ pattern.text? record = some p ∧ Wildcard.Covers p text) ∧
    (∀ x pattern : Spelling, Layout.evaluate record (x.text ++ " LIKE " ++ pattern.text) =
      .ok ((Node.like x.operand pattern.operand.onRight).holds record)) ∧
    ∀ p : Text, ∃ e, Wildcard.expression p = .ok e ∧ ∀ text : Text, e.find text ≠ .crossed := by
  refine ⟨fun operand pattern => ?_, fun x pattern => ?_, fun p => ?_⟩
  · rw [Node.holds]
    exact isLike_iff
  · exact (spells_like x pattern).evaluate record
  · obtain ⟨e, he, finds⟩ := Wildcard.exists_expression p
    exact ⟨e, he, fun text => (finds text).2⟩

end Expression
end FixedExtract
