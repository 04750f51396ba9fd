import FixedExtract.Proofs.Text.Numeral
import FixedExtract.Proofs.Yaml.Plain
import FixedExtract.Proofs.Yaml.SingleQuoted
import FixedExtract.Yaml.Scalar.Value
/-!
# What the style of a text says about it

A text is written plain when a plain scalar can show it and reads back as text, and between single quotes
only when they can show it, next lines apart. The numeral of an integer is plain and reads back as the
integer.
-/

namespace FixedExtract.Yaml

variable {text : Text}

/-! ## Neighbours -/

theorem isChain_of_hasFreeMark (h : hasFreeMark text = false) :
    text.IsChain (fun c d => ¬(c = ':' ∧ d = ' ') ∧ ¬(c = ' ' ∧ d = '#')) ∧
      ∀ ch ∈ text.getLast?, ch ≠ ':' := by
  induction text with
  | nil => exact ⟨.nil, by simp⟩
  | cons c rest ih =>
    cases rest with
    | nil =>
      refine ⟨.singleton c, ?_⟩
      rintro ch ⟨⟩ rfl
      cases h
    | cons d rest =>
      rw [hasFreeMark, Bool.or_eq_false_iff, Bool.or_eq_false_iff] at h
      obtain ⟨⟨colon, number⟩, tail⟩ := h
      obtain ⟨chain, last⟩ := ih tail
      refine ⟨.cons_cons ⟨?_, ?_⟩ chain, last⟩
      · rintro ⟨rfl, rfl⟩
        cases colon
      · rintro ⟨rfl, rfl⟩
        cases number

theorem isChain_of_spaceBreak (before : hasSpaceBreak text = false) (behind : hasBreakSpace text = false) :
    text.IsChain fun c d => ¬(c = ' ' ∧ isWrittenBreak d = true) ∧ ¬(isWrittenBreak c = true ∧ d = ' ') := by
  induction text with
  | nil => exact .nil
  | cons c rest ih =>
    cases rest with
    | nil => exact .singleton c
    | cons d rest =>
      rw [hasSpaceBreak, Bool.or_eq_false_iff] at before
      rw [hasBreakSpace, Bool.or_eq_false_iff] at behind
      refine .cons_cons ⟨?_, ?_⟩ (ih before.2 behind.2)
      · rintro ⟨rfl, isBreak⟩
        simp [isBreak] at before
      · rintro ⟨isBreak, rfl⟩
        simp [isBreak] at behind

/-! ## Styles -/

/-- What a text has to be for each of the styles. -/
theorem styleOf_cases (text : Text) :
    styleOf text = .double ∨
    (styleOf text = .plain ∧ text.all isShown = true ∧ plainTag text = .text ∧
      text.any isWrittenBreak = false ∧ isPadded text = false ∧ startsMarked text = false ∧
      hasFreeMark text = false) ∨
    (styleOf text = .single ∧ text.all isShown = true ∧ hasSpaceBreak text = false ∧
      hasBreakSpace text = false) := by
  unfold styleOf
  split
  · exact .inl rfl
  · next shown =>
    simp only [Bool.or_eq_true, Bool.not_eq_true', not_or, Bool.not_eq_false, Bool.not_eq_true] at shown
    split
    · next plain =>
      simp only [Bool.and_eq_true, Bool.not_eq_true', decide_eq_true_eq] at plain
      exact .inr (.inl ⟨rfl, shown.1, plain.1.1.1.1, plain.1.1.1.2, plain.1.1.2, plain.1.2, plain.2⟩)
    · split
      · exact .inl rfl
      · next behind => exact .inr (.inr ⟨rfl, shown.1, shown.2, by simpa using behind⟩)

/-- What a text that is written plain is. -/
theorem isPlain_of_styleOf (h : styleOf text = .plain) :
    IsPlain text ∧ plainTag text = .text ∧ startsMarked text = false := by
  rcases styleOf_cases text with other | ⟨-, shown, tag, flat, padded, unmarked, free⟩ | ⟨other, -⟩
  · rw [h] at other
    cases other
  · obtain ⟨chain, noColon⟩ := isChain_of_hasFreeMark free
    rw [isPadded, Bool.or_eq_false_iff] at padded
    obtain ⟨head, last⟩ := padded
    refine ⟨⟨?_, ?_, ?_, ?_, chain⟩, tag, unmarked⟩
    · rintro rfl
      cases tag
    · exact fun ch hc => ⟨List.all_eq_true.1 shown ch hc, by simpa using List.any_eq_false.1 flat ch hc⟩
    · intro ch hc
      obtain ⟨rest, rfl⟩ := List.head?_eq_some_iff.1 hc
      constructor
      · rintro rfl
        cases head
      · rintro rfl
        cases unmarked
    · intro ch hc
      refine ⟨?_, noColon ch hc⟩
      rintro rfl
      rw [Option.mem_def.1 hc] at last
      cases last
  · rw [h] at other
    cases other

/-- A text that is written between single quotes can be shown by them, unless it holds a next line. -/
theorem singleQuotable_of_styleOf (h : styleOf text = .single) (kept : '\u0085' ∉ text) :
    SingleQuotable text := by
  rcases styleOf_cases text with other | ⟨other, -⟩ | ⟨-, shown, before, behind⟩
  · rw [h] at other
    cases other
  · rw [h] at other
    cases other
  · exact ⟨List.all_eq_true.1 shown, kept, isChain_of_spaceBreak before behind⟩

end FixedExtract.Yaml
