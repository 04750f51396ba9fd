import FixedExtract.Proofs.Text.Class
import FixedExtract.Text.Case
/-!
# Texts and line feeds

Texts joined by a separator and cut at it again are cut wherever the separator stands in one of them, so they come
back as they are exactly when it stands in none. Neither stripping a text nor changing its case puts a line feed in.
-/

namespace FixedExtract.Text

variable {separator c : Char} {text : Text} {texts : List Text}

/-! ## Cutting at a separator -/

theorem splitOn_eq (separator : Char) (text : Text) : splitOn separator text = List.splitOn separator text := by
  rw [List.splitOn_eq_splitOnP]
  induction text with
  | nil => rfl
  | cons c rest ih =>
    obtain ⟨first, others, cut⟩ := List.exists_cons_of_ne_nil (List.splitOnP_ne_nil (· == separator) rest)
    rw [splitOn, ih, List.splitOnP_cons_eq_if_modifyHead, cut]
    by_cases here : c = separator
    · rw [if_pos (beq_iff_eq.2 here)]
      exact if_pos here
    · rw [if_neg (mt beq_iff_eq.1 here)]
      exact if_neg here

theorem splitOn_of_notMem (h : separator ∉ text) : splitOn separator text = [text] := by
  rw [splitOn_eq, List.splitOn_eq_singleton h]

/-- A text is cut at a separator wherever this stands, in front of it and behind. -/
theorem splitOn_append_cons (separator : Char) (front behind : Text) :
    splitOn separator (front ++ separator :: behind) = splitOn separator front ++ splitOn separator behind := by
  rw [splitOn_eq, splitOn_eq, splitOn_eq, List.splitOn_eq_splitOnP, List.splitOn_eq_splitOnP, List.splitOn_eq_splitOnP]
  exact List.splitOnP_append_cons front behind (beq_self_eq_true separator)

/-- No piece holds a separator. -/
theorem notMem_of_mem_splitOn {piece : Text} (h : piece ∈ splitOn separator text) : separator ∉ piece := by
  rw [splitOn_eq, List.splitOn_eq_splitOnP] at h
  induction text generalizing piece with
  | nil =>
    rw [List.mem_singleton.1 h]
    exact List.not_mem_nil
  | cons c rest ih =>
    obtain ⟨first, others, cut⟩ := List.exists_cons_of_ne_nil (List.splitOnP_ne_nil (· == separator) rest)
    rw [List.splitOnP_cons_eq_if_modifyHead, cut] at h
    rw [cut] at ih
    -- A separator opens a new piece, and any other character goes to the front of the first one.
    by_cases here : c = separator
    · rw [if_pos (beq_iff_eq.2 here)] at h
      rcases List.mem_cons.1 h with rfl | later
      · exact List.not_mem_nil
      · exact ih later
    · rw [if_neg (mt beq_iff_eq.1 here)] at h
      rcases List.mem_cons.1 h with rfl | later
      · rw [List.mem_cons, not_or]
        exact ⟨Ne.symm here, ih List.mem_cons_self⟩
      · exact ih (List.mem_cons_of_mem first later)

/-- Joined texts are cut at the joints and where a separator stands in one of them. -/
theorem splitOn_join (separator : Char) (nonEmpty : texts ≠ []) :
    splitOn separator (join [separator] texts) = texts.flatMap (splitOn separator) := by
  induction texts with
  | nil => exact absurd rfl nonEmpty
  | cons text rest ih =>
    cases rest with
    | nil => rw [join, List.intercalate_singleton, List.flatMap_singleton]
    | cons next more =>
      rw [join, List.intercalate_cons_cons, List.append_assoc, List.singleton_append, splitOn_append_cons, ← join,
        ih (List.cons_ne_nil next more), ← List.flatMap_cons]

/-- Texts are their own pieces exactly when none of them holds a separator. -/
theorem flatMap_splitOn_eq_iff : texts.flatMap (splitOn separator) = texts ↔ ∀ text ∈ texts, separator ∉ text := by
  constructor
  · intro same text ht
    rw [← same, List.mem_flatMap] at ht
    obtain ⟨whole, -, piece⟩ := ht
    exact notMem_of_mem_splitOn piece
  · intro apart
    induction texts with
    | nil => rfl
    | cons text rest ih =>
      obtain ⟨first, others⟩ := List.forall_mem_cons.1 apart
      rw [List.flatMap_cons, splitOn_of_notMem first, ih others, List.singleton_append]

/-! ## Changes that put no line feed in -/

/-- The text is on one line. -/
def OneLine (text : Text) : Prop := '\n' ∉ text

instance (text : Text) : Decidable (OneLine text) := inferInstanceAs (Decidable ('\n' ∉ text))

theorem OneLine.nil : OneLine [] := List.not_mem_nil

theorem OneLine.of_subset {part : Text} (h : OneLine text) (subset : part ⊆ text) : OneLine part :=
  fun here => h (subset here)

theorem OneLine.append {other : Text} (h : OneLine text) (h' : OneLine other) : OneLine (text ++ other) :=
  fun here => (List.mem_append.1 here).elim h h'

theorem OneLine.join {delimiter : Text} (h : OneLine delimiter) (each : ∀ text ∈ texts, OneLine text) :
    OneLine (join delimiter texts) := by
  induction texts with
  | nil => exact .nil
  | cons text rest ih =>
    obtain ⟨first, others⟩ := List.forall_mem_cons.1 each
    cases rest with
    | nil =>
      rw [Text.join, List.intercalate_singleton]
      exact first
    | cons next more =>
      rw [Text.join, List.intercalate_cons_cons]
      exact (first.append h).append (ih others)

theorem oneLine_getD {value : Option Text} {otherwise : Text} (h : ∀ text ∈ value, OneLine text)
    (h' : OneLine otherwise) : OneLine (value.getD otherwise) := by
  cases value with
  | none => exact h'
  | some text => exact h text rfl

theorem OneLine.strip (h : OneLine text) : OneLine (strip text) := by
  obtain ⟨lead, trail, whole, -⟩ := exists_strip text
  refine h.of_subset ?_
  intro c hc
  rw [whole]
  exact List.mem_append_right lead (List.mem_append_left trail hc)

theorem ofNat_eq_newline {n : Nat} (h : Char.ofNat n = '\n') : n = 10 := by
  by_cases valid : n.isValidChar
  · rw [Char.ofNat, dif_pos valid] at h
    exact congrArg Char.toNat h
  · rw [Char.ofNat, dif_neg valid] at h
    cases h

/-- No run moves a character down to the line feed, whose code point is ten. -/
theorem mapByRuns_ne_newline {runs : List CaseRun} (above : ∀ run ∈ runs, 10 < (run.first : Int) + run.shift)
    (h : c ≠ '\n') : mapByRuns runs c ≠ '\n' := by
  unfold mapByRuns
  split
  · next run found =>
    intro moved
    have inside := List.find?_some found
    rw [CaseRun.contains, Bool.and_eq_true, Bool.and_eq_true, Nat.ble_eq] at inside
    have start : run.first ≤ c.toNat := inside.1.1
    have image := ofNat_eq_newline moved
    have high := above run (List.mem_of_find?_eq_some found)
    omega
  · exact h

set_option maxRecDepth 8000 in
theorem oneLine_upperChar (h : c ≠ '\n') : OneLine (upperChar c) := by
  unfold upperChar
  split
  · next points found =>
    have apart : ∀ expansion ∈ upperExpansions, 10 ∉ expansion.2 := by decide
    intro here
    obtain ⟨n, hn, image⟩ := List.mem_map.1 here
    rw [ofNat_eq_newline image] at hn
    obtain ⟨before, after, pairs, -⟩ := List.lookup_eq_some_iff.1 found
    refine apart (c.toNat, points) ?_ hn
    rw [pairs]
    exact List.mem_append_right before List.mem_cons_self
  · have other : mapByRuns upperRuns c ≠ '\n' := mapByRuns_ne_newline (by decide) h
    exact fun here => other (List.mem_singleton.1 here).symm

theorem OneLine.upper (h : OneLine text) : OneLine (upper text) := by
  intro here
  obtain ⟨c, hc, image⟩ := List.mem_flatMap.1 here
  refine oneLine_upperChar ?_ image
  rintro rfl
  exact h hc

set_option maxRecDepth 8000 in
theorem oneLine_lowerChar (h : c ≠ '\n') : OneLine (lowerChar c) := by
  unfold lowerChar
  split
  · decide
  · have other : lowerOne c ≠ '\n' := mapByRuns_ne_newline (by decide) h
    exact fun here => other (List.mem_singleton.1 here).symm

theorem OneLine.lowerAfter (h : OneLine text) (casedBefore : Bool) : OneLine (lowerAfter casedBefore text) := by
  induction text generalizing casedBefore with
  | nil => exact List.not_mem_nil
  | cons c rest ih =>
    rw [OneLine, List.mem_cons, not_or] at h
    unfold Text.lowerAfter
    refine OneLine.append ?_ (ih h.2 _)
    -- The capital sigma has two small forms.
    split
    · split
      · decide
      · decide
    · exact oneLine_lowerChar (Ne.symm h.1)

theorem OneLine.lower (h : OneLine text) : OneLine (lower text) := h.lowerAfter false

end FixedExtract.Text
