import FixedExtract.Proofs.Text.Class
import FixedExtract.Yaml.Cursor
/-!
# Moving through a text

Where a position is behind a part of the text. A part that ends no line leaves the position on its line and
moves it on by one column a character; behind a line end the columns count from zero again.
-/

namespace FixedExtract.Yaml

variable {ch : Char}

/-! ## White space -/

theorem isBlankOrEnd_iff_mem : isBlankOrEnd ch = true ↔
    ch ∈ ['\n', '\r', '\u0085', '\u2028', '\u2029', '\x00', ' ', '\t'] := by
  have mark : decide (ch = endMark) = true ↔ ch = '\x00' := decide_eq_true_iff
  simp [isBlankOrEnd, isSpaceOrEnd, isBreakOrEnd, isBreak, mark, or_assoc]

theorem visible_iff : isBlankOrEnd ch = false ↔
    isBreak ch = false ∧ ch ≠ endMark ∧ ch ≠ ' ' ∧ ch ≠ '\t' := by
  simp [isBlankOrEnd, isSpaceOrEnd, isBreakOrEnd, and_assoc]

/-- A property that white space lacks tells a character from it. -/
theorem visible_of_property {p : Char → Bool} (h : p ch = true)
    (lacking : (['\n', '\r', '\u0085', '\u2028', '\u2029', '\x00', ' ', '\t'].all fun d => !p d) = true) :
    isBlankOrEnd ch = false := by
  rw [Bool.eq_false_iff]
  intro blank
  have := List.all_eq_true.1 lacking ch (isBlankOrEnd_iff_mem.1 blank)
  rw [h] at this
  cases this

/-- A text is cut where a run of `p` at its front ends. -/
theorem exists_run (p : Char → Bool) (text : Text) : ∃ front back, text = front ++ back ∧
    (∀ ch ∈ front, p ch = true) ∧ ∀ ch ∈ back.head?, p ch = false := by
  refine ⟨text.takeWhile p, text.dropWhile p, List.takeWhile_append_dropWhile.symm,
    fun ch hc => List.mem_takeWhile_imp hc, ?_⟩
  intro ch hc
  have := List.head?_dropWhile_not p text
  rw [Option.mem_def.1 hc] at this
  simpa using this

namespace Cursor

variable {c : Cursor} {text rest : Text} {p : Char → Bool}

/-! ## What is in front of a position -/

theorem here_of_rest (h : c.rest = ch :: rest) : c.here = ch := by
  rw [here, h]
  rfl

theorem peek_one_of_rest (h : c.rest = ch :: rest) : c.peek 1 = rest.headD endMark := by
  rw [peek, h]
  cases rest <;> rfl

/-- What the end mark lacks, and the text does not start with, is not here. -/
theorem here_of_head (none : p endMark = false) (head : ∀ ch ∈ c.rest.head?, p ch = false) :
    p c.here = false := by
  unfold here
  cases h : c.rest with
  | nil => exact none
  | cons ch rest => exact head ch (by rw [h]; rfl)

theorem run_of_rest (h : c.rest = text ++ rest) (all : ∀ ch ∈ text, p ch = true)
    (stop : ∀ ch ∈ rest.head?, p ch = false) : c.run p = text := by
  rw [run, h, Text.takeWhile_append_apart stop]
  exact List.takeWhile_eq_self_iff.2 all

theorem run_eq_nil (stop : ∀ ch ∈ c.rest.head?, p ch = false) : c.run p = [] :=
  run_of_rest rfl (by simp) stop

/-- Only a hyphen or a full stop starts a line that divides documents. -/
theorem atDocumentMark_eq_false (h : ∀ ch ∈ c.rest.head?, ch ≠ '-' ∧ ch ≠ '.') :
    c.atDocumentMark = false := by
  unfold atDocumentMark
  cases hr : c.rest with
  | nil => rfl
  | cons ch rest =>
    obtain ⟨hyphen, stop⟩ := h ch (by rw [hr]; rfl)
    simp [hyphen, stop]

/-! ## Moving on -/

theorem skip_add (c : Cursor) (m n : Nat) : c.skip (m + n) = (c.skip m).skip n := by
  induction m generalizing c with
  | zero => rw [Nat.zero_add, skip]
  | succ m ih =>
    rw [Nat.succ_add]
    exact ih c.next

theorem rest_next (c : Cursor) : c.next.rest = c.rest.tail := by
  unfold next
  split
  · next h => rw [h, List.tail_nil]
  · next h =>
    rw [h, List.tail_cons]
    split <;> rfl

theorem rest_skip (c : Cursor) (n : Nat) : (c.skip n).rest = c.rest.drop n := by
  induction n generalizing c with
  | zero => rfl
  | succ n ih => rw [skip, ih, rest_next, List.drop_tail]

theorem rest_skip_append (h : c.rest = text ++ rest) : (c.skip text.length).rest = rest := by
  rw [rest_skip, h, List.drop_left]

theorem rest_next_cons (h : c.rest = ch :: rest) : c.next.rest = rest := by
  rw [rest_next, h, List.tail_cons]

theorem skipWhile_of_rest (h : c.rest = text ++ rest) (all : ∀ ch ∈ text, p ch = true)
    (stop : ∀ ch ∈ rest.head?, p ch = false) : c.skipWhile p = c.skip text.length := by
  rw [skipWhile, run_of_rest h all stop]

theorem skipWhile_eq_self (stop : ∀ ch ∈ c.rest.head?, p ch = false) : c.skipWhile p = c := by
  rw [skipWhile, run_eq_nil stop]
  rfl

theorem line_le_skip (c : Cursor) (n : Nat) : c.line ≤ (c.skip n).line := by
  induction n generalizing c with
  | zero => exact Nat.le_refl _
  | succ n ih =>
    have step : c.line ≤ c.next.line := by
      unfold next
      split
      · exact Nat.le_refl _
      · split
        · exact Nat.le_succ _
        · exact Nat.le_refl _
    exact step.trans (ih c.next)

/-! ## Within a line -/

/-- The text stays on one line, and every character of it takes a column. -/
def Inline (text : Text) : Prop := ∀ ch ∈ text, isBreak ch = false ∧ ch ≠ '\ufeff'

theorem next_inline (h : c.rest = ch :: rest) (stays : isBreak ch = false) (column : ch ≠ '\ufeff') :
    c.next = ⟨rest, c.index + 1, c.line, c.column + 1⟩ := by
  simp only [next, h, stays, Bool.false_and, Bool.false_eq_true, if_false, if_neg column]

theorem skip_inline (h : c.rest = text ++ rest) (inline : Inline text) :
    c.skip text.length = ⟨rest, c.index + text.length, c.line, c.column + text.length⟩ := by
  induction text generalizing c with
  | nil =>
    rw [List.nil_append] at h
    rw [← h]
    rfl
  | cons ch text ih =>
    obtain ⟨stays, column⟩ := inline ch List.mem_cons_self
    have tail : Inline text := fun d hd => inline d (List.mem_cons_of_mem ch hd)
    have moved : c.next = ⟨text ++ rest, _, _, _⟩ := next_inline h stays column
    have further := ih (c := c.next) (by rw [moved]) tail
    rw [List.length_cons, skip, further, moved]
    simp only [Nat.add_assoc, Nat.add_comm 1]

theorem inline_append {other : Text} : Inline (text ++ other) ↔ Inline text ∧ Inline other :=
  List.forall_mem_append

/-! ## Line ends -/

/-- The line ends that are read as they are written. -/
def IsKeptBreak (ch : Char) : Prop := ch = '\n' ∨ ch = '\u2028' ∨ ch = '\u2029'

theorem lineBreak?_eq_none (h : isBreak c.here = false) : c.lineBreak? = none := by
  rw [lineBreak?, h]
  rfl

theorem lineBreak?_of_kept (h : c.rest = ch :: rest) (kept : IsKeptBreak ch) :
    c.lineBreak? = some (ch, c.next) := by
  rcases kept with rfl | rfl | rfl <;> simp [lineBreak?, here_of_rest h, isBreak]

theorem next_of_kept (h : c.rest = ch :: rest) (kept : IsKeptBreak ch) :
    c.next = ⟨rest, c.index + 1, c.line + 1, 0⟩ := by
  rcases kept with rfl | rfl | rfl <;> simp [next, h, isBreak]

end Cursor
end FixedExtract.Yaml
