import FixedExtract.Text.Class
import Mathlib.Data.List.Chain
import Mathlib.Data.List.TakeWhile
/-!
# Facts about character classes

The classes are tables of ranges, so what holds between two of them is a finite check on their tables.
Digits are apart from letters and from white space, and the digits below 128 are the ASCII ones.
-/

namespace FixedExtract.Text

theorem inRanges_eq_true_iff {ranges : List (Nat × Nat)} {n : Nat} :
    inRanges ranges n = true ↔ ∃ range ∈ ranges, range.1 ≤ n ∧ n ≤ range.2 := by
  simp [inRanges, List.any_eq_true]

/-- Tables whose ranges do not overlap have no member in common. -/
theorem inRanges_eq_false_of_disjoint {ranges others : List (Nat × Nat)} {n : Nat}
    (disjoint : ∀ range ∈ ranges, ∀ other ∈ others, range.2 < other.1 ∨ other.2 < range.1)
    (h : inRanges ranges n = true) : inRanges others n = false := by
  rw [Bool.eq_false_iff]
  intro both
  obtain ⟨range, hr, low, high⟩ := inRanges_eq_true_iff.1 h
  obtain ⟨other, ho, otherLow, otherHigh⟩ := inRanges_eq_true_iff.1 both
  have := disjoint range hr other ho
  omega

/-- Whether two tables do not overlap, told in one pass over both. A range that ends before the first range of the
other table starts is not looked at again. -/
def passApart : List (Nat × Nat) → List (Nat × Nat) → Bool
  | [], _ => true
  | range :: ranges, others =>
    let ahead := others.dropWhile fun other => Nat.blt other.2 range.1
    (ahead.head?.all fun other => Nat.blt range.2 other.1) && passApart ranges ahead

/-- The one pass is enough where both tables are in ascending order. -/
theorem disjoint_of_passApart {ranges others : List (Nat × Nat)} (pass : passApart ranges others = true)
    (ascending : ranges.Pairwise fun range later => range.1 ≤ later.1)
    (othersAscending : others.Pairwise fun other later => other.1 ≤ later.1) :
    ∀ range ∈ ranges, ∀ other ∈ others, range.2 < other.1 ∨ other.2 < range.1 := by
  induction ranges generalizing others with
  | nil => exact fun range hr => absurd hr List.not_mem_nil
  | cons first ranges ih =>
    obtain ⟨behindFirst, ascending⟩ := List.pairwise_cons.1 ascending
    let passed := others.takeWhile fun other => Nat.blt other.2 first.1
    let ahead := others.dropWhile fun other => Nat.blt other.2 first.1
    have cut : passed ++ ahead = others := List.takeWhile_append_dropWhile
    have aheadAscending : ahead.Pairwise fun other later => other.1 ≤ later.1 :=
      othersAscending.sublist (List.dropWhile_sublist _)
    have both : (ahead.head?.all fun other => Nat.blt first.2 other.1) = true ∧ passApart ranges ahead = true :=
      Bool.and_eq_true_iff.1 pass
    intro range hr other ho
    rw [← cut, List.mem_append] at ho
    rcases ho with behind | more
    · -- It ends before the first range starts, so before every later one does.
      have ended : Nat.blt other.2 first.1 = true :=
        List.mem_takeWhile_imp (p := fun other : Nat × Nat => Nat.blt other.2 first.1) behind
      rw [Nat.blt_eq] at ended
      rcases List.mem_cons.1 hr with rfl | later
      · exact .inr ended
      · have := behindFirst range later
        omega
    · rcases List.mem_cons.1 hr with rfl | later
      · -- It does not start before the next one, which the pass has looked at.
        obtain ⟨next, further, whole⟩ := List.exists_cons_of_ne_nil (List.ne_nil_of_mem more)
        rw [whole] at more both aheadAscending
        have clear : range.2 < next.1 := Nat.blt_eq.mp both.1
        rcases List.mem_cons.1 more with rfl | further
        · exact .inl clear
        · have := (List.pairwise_cons.1 aheadAscending).1 other further
          omega
      · exact ih both.2 ascending aheadAscending range later other more

/-- The order of a table, from each range to the next. -/
theorem ascending_of_chain {ranges : List (Nat × Nat)} (chain : (ranges.map Prod.fst).IsChain (· ≤ ·)) :
    ranges.Pairwise fun range later => range.1 ≤ later.1 :=
  List.pairwise_map.1 (List.isChain_iff_pairwise.1 chain)

set_option maxRecDepth 8000 in
theorem letterRanges_ascending : letterRanges.Pairwise fun range later => range.1 ≤ later.1 :=
  ascending_of_chain (by decide)

theorem spaceRanges_ascending : spaceRanges.Pairwise fun range later => range.1 ≤ later.1 :=
  ascending_of_chain (by decide)

/-- Membership in the run of ten that starts at a zero. -/
theorem inRun_eq_true_iff {start n : Nat} :
    (Nat.ble start n && Nat.blt n (start + 10)) = true ↔ start ≤ n ∧ n < start + 10 := by
  rw [Bool.and_eq_true, Nat.ble_eq, Nat.blt_eq]

theorem isDecimalDigit_eq_true_iff {c : Char} :
    isDecimalDigit c = true ↔ ∃ start ∈ decimalZeros, start ≤ c.toNat ∧ c.toNat < start + 10 := by
  simp only [isDecimalDigit, List.any_eq_true, inRun_eq_true_iff]

theorem isAsciiDigit_eq_true_iff {c : Char} : isAsciiDigit c = true ↔ 48 ≤ c.toNat ∧ c.toNat ≤ 57 := by
  rw [isAsciiDigit, Bool.and_eq_true, Nat.ble_eq, Nat.ble_eq]

/-! ## Digits -/

/-- A decimal digit has a value below ten. -/
theorem decimalValue?_of_isDecimalDigit {c : Char} (h : isDecimalDigit c = true) :
    ∃ value, value < 10 ∧ decimalValue? c = some value := by
  have found : (decimalZeros.find? fun start =>
      Nat.ble start c.toNat && Nat.blt c.toNat (start + 10)).isSome := by
    rw [List.find?_isSome]
    obtain ⟨start, hs, inRun⟩ := isDecimalDigit_eq_true_iff.1 h
    exact ⟨start, hs, inRun_eq_true_iff.2 inRun⟩
  obtain ⟨start, hs⟩ := Option.isSome_iff_exists.1 found
  have inRun : start ≤ c.toNat ∧ c.toNat < start + 10 := by
    have := List.find?_some hs
    exact inRun_eq_true_iff.1 this
  refine ⟨c.toNat - start, by omega, ?_⟩
  rw [decimalValue?, hs, Option.map_some]

theorem isDecimalDigit_of_decimalValue? {c : Char} {value : Nat} (h : decimalValue? c = some value) :
    isDecimalDigit c = true := by
  obtain ⟨start, hs, -⟩ := Option.map_eq_some_iff.1 h
  rw [isDecimalDigit, List.any_eq_true]
  have inRun := List.find?_some hs
  exact ⟨start, List.mem_of_find?_eq_some hs, inRun⟩

/-- The ASCII digits are the first script. -/
theorem decimalValue?_of_isAsciiDigit {c : Char} (h : isAsciiDigit c = true) :
    decimalValue? c = some (asciiDigitValue c) := by
  have first : decimalZeros = 48 :: decimalZeros.tail := rfl
  rw [isAsciiDigit_eq_true_iff] at h
  have inRun : (Nat.ble 48 c.toNat && Nat.blt c.toNat (48 + 10)) = true := inRun_eq_true_iff.2 (by omega)
  rw [decimalValue?, first, List.find?_cons, inRun]
  rfl

theorem isDigit_of_isDecimalDigit {c : Char} (h : isDecimalDigit c = true) : isDigit c = true := by
  rw [isDigit, h, Bool.true_or]

/-- A digit is in one of the runs of ten or in one of the other ranges. -/
theorem isDigit_cases {c : Char} (h : isDigit c = true) :
    (∃ start ∈ decimalZeros, start ≤ c.toNat ∧ c.toNat < start + 10) ∨
      ∃ range ∈ otherDigitRanges, range.1 ≤ c.toNat ∧ c.toNat ≤ range.2 := by
  rw [isDigit, Bool.or_eq_true] at h
  rcases h with decimal | other
  · exact .inl (isDecimalDigit_eq_true_iff.1 decimal)
  · exact .inr (inRanges_eq_true_iff.1 other)

/-- The digits below 128 are the ASCII digits. -/
theorem isAsciiDigit_of_isDigit {c : Char} (h : isDigit c = true) (ascii : c.toNat < 128) :
    isAsciiDigit c = true := by
  have zeros : ∀ start ∈ decimalZeros, start = 48 ∨ 128 ≤ start := by decide
  have others : ∀ range ∈ otherDigitRanges, 128 ≤ range.1 := by decide
  rw [isAsciiDigit_eq_true_iff]
  rcases isDigit_cases h with ⟨start, hs, low, high⟩ | ⟨range, hr, low, -⟩
  · have := zeros start hs
    omega
  · have := others range hr
    omega

theorem isDecimalDigit_of_isAsciiDigit {c : Char} (h : isAsciiDigit c = true) :
    isDecimalDigit c = true := by
  rw [isAsciiDigit_eq_true_iff] at h
  exact isDecimalDigit_eq_true_iff.2 ⟨48, by decide, by omega⟩

/-- The runs of ten that start at the zeros, as closed ranges. -/
def decimalRanges : List (Nat × Nat) := decimalZeros.map fun start => (start, start + 9)

theorem isDecimalDigit_eq_inRanges (c : Char) : isDecimalDigit c = inRanges decimalRanges c.toNat := by
  rw [inRanges, decimalRanges, List.any_map]
  rfl

set_option maxRecDepth 8000 in
/-- A class is apart from the digits as soon as one pass tells its table from theirs. -/
theorem isDigit_eq_false_of_inRanges {ranges : List (Nat × Nat)} {c : Char}
    (ascending : ranges.Pairwise fun range later => range.1 ≤ later.1)
    (decimals : passApart ranges decimalRanges = true) (others : passApart ranges otherDigitRanges = true)
    (h : inRanges ranges c.toNat = true) : isDigit c = false := by
  have decimalsAscending : decimalRanges.Pairwise fun range later => range.1 ≤ later.1 :=
    ascending_of_chain (by decide)
  have othersAscending : otherDigitRanges.Pairwise fun range later => range.1 ≤ later.1 :=
    ascending_of_chain (by decide)
  rw [isDigit, isDecimalDigit_eq_inRanges, Bool.or_eq_false_iff]
  constructor
  · exact inRanges_eq_false_of_disjoint (disjoint_of_passApart decimals ascending decimalsAscending) h
  · exact inRanges_eq_false_of_disjoint (disjoint_of_passApart others ascending othersAscending) h

set_option maxRecDepth 8000 in
/-- No letter is a digit. -/
theorem isDigit_eq_false_of_isLetter {c : Char} (h : isLetter c = true) : isDigit c = false :=
  isDigit_eq_false_of_inRanges letterRanges_ascending (by decide) (by decide) h

set_option maxRecDepth 8000 in
/-- The letters below 128 are the ASCII letters. -/
theorem isAsciiLetter_of_isLetter {c : Char} (h : isLetter c = true) (ascii : c.toNat < 128) :
    isAsciiLetter c = true := by
  have ranges : ∀ range ∈ letterRanges, range = (65, 90) ∨ range = (97, 122) ∨ 128 ≤ range.1 := by decide
  obtain ⟨range, hr, low, high⟩ := inRanges_eq_true_iff.1 h
  rw [isAsciiLetter, Bool.or_eq_true, Bool.and_eq_true, Bool.and_eq_true, Nat.ble_eq, Nat.ble_eq, Nat.ble_eq,
    Nat.ble_eq]
  rcases ranges range hr with rfl | rfl | beyond
  · exact .inl ⟨low, high⟩
  · exact .inr ⟨low, high⟩
  · omega

set_option maxRecDepth 8000 in
/-- No digit is white space. -/
theorem isSpace_eq_false_of_isDigit {c : Char} (h : isDigit c = true) : isSpace c = false := by
  rw [Bool.eq_false_iff]
  intro space
  rw [isDigit_eq_false_of_inRanges spaceRanges_ascending (by decide) (by decide) space] at h
  cases h

set_option maxRecDepth 8000 in
/-- No white space belongs to a word. -/
theorem isWord_eq_false_of_isSpace {c : Char} (h : isSpace c = true) : isWord c = false := by
  have numbers : otherNumberRanges.Pairwise fun range later => range.1 ≤ later.1 := ascending_of_chain (by decide)
  have letter : isLetter c = false :=
    inRanges_eq_false_of_disjoint (disjoint_of_passApart (by decide) spaceRanges_ascending letterRanges_ascending) h
  have number : inRanges otherNumberRanges c.toNat = false :=
    inRanges_eq_false_of_disjoint (disjoint_of_passApart (by decide) spaceRanges_ascending numbers) h
  have digit : isDigit c = false := by
    rw [Bool.eq_false_iff]
    intro digit
    rw [isSpace_eq_false_of_isDigit digit] at h
    cases h
  have underscore : c ≠ '_' := by
    rintro rfl
    exact absurd h (by decide)
  rw [isWord, isAlphanumeric, letter, digit, number, decide_eq_false underscore]
  rfl

/-! ## Runs at the front -/

section
variable {p : Char → Bool} {text rest : Text}

theorem takeWhile_eq_nil_of_apart (apart : ∀ c ∈ rest.head?, p c = false) : rest.takeWhile p = [] := by
  cases rest with
  | nil => rfl
  | cons c rest => exact List.takeWhile_cons_of_neg (Bool.eq_false_iff.1 (apart c rfl))

/-- Text that does not go on with a run leaves the run as it is. -/
theorem takeWhile_append_apart (apart : ∀ c ∈ rest.head?, p c = false) :
    (text ++ rest).takeWhile p = text.takeWhile p := by
  rw [List.takeWhile_append, takeWhile_eq_nil_of_apart apart, List.append_nil]
  split
  · next whole => exact ((List.takeWhile_prefix p).eq_of_length whole).symm
  · rfl

theorem dropWhile_append_apart (apart : ∀ c ∈ rest.head?, p c = false) :
    (text ++ rest).dropWhile p = text.dropWhile p ++ rest := by
  -- The run and what is behind it are the whole text, and the run is the same.
  have both : (text ++ rest).takeWhile p ++ (text ++ rest).dropWhile p =
      text.takeWhile p ++ (text.dropWhile p ++ rest) := by
    rw [List.takeWhile_append_dropWhile, ← List.append_assoc, List.takeWhile_append_dropWhile]
  rw [takeWhile_append_apart apart] at both
  exact List.append_cancel_left both

end

/-! ## Stripping -/

/-- Text without white space at either end stays. -/
theorem strip_eq_self {text : Text} (h : ∀ c ∈ text, isSpace c = false) : strip text = text := by
  have kept : ∀ part : Text, (∀ c ∈ part, isSpace c = false) → part.dropWhile isSpace = part := by
    intro part apart
    cases part with
    | nil => rfl
    | cons c rest =>
      rw [List.dropWhile_cons_of_neg]
      rw [apart c List.mem_cons_self]
      exact Bool.false_ne_true
  have reversed : ∀ c ∈ text.reverse, isSpace c = false := fun c hc => h c (List.mem_reverse.1 hc)
  rw [strip, trimBy, kept text h, kept _ reversed, List.reverse_reverse]

/-- Stripping takes white space off both ends and nothing else. -/
theorem exists_strip (text : Text) : ∃ lead trail, text = lead ++ (strip text ++ trail) ∧
    (∀ c ∈ lead, isSpace c = true) ∧ ∀ c ∈ trail, isSpace c = true := by
  have front : text.takeWhile isSpace ++ text.dropWhile isSpace = text :=
    List.takeWhile_append_dropWhile
  have back : (text.dropWhile isSpace).reverse.takeWhile isSpace ++
      (text.dropWhile isSpace).reverse.dropWhile isSpace = (text.dropWhile isSpace).reverse :=
    List.takeWhile_append_dropWhile
  refine ⟨text.takeWhile isSpace, ((text.dropWhile isSpace).reverse.takeWhile isSpace).reverse, ?_, ?_, ?_⟩
  · rw [strip, trimBy, ← List.reverse_append, back, List.reverse_reverse, front]
  · exact fun c hc => List.mem_takeWhile_imp hc
  · exact fun c hc => List.mem_takeWhile_imp (List.mem_reverse.1 hc)

/-! ## Blank text -/

section
variable {text : Text}

/-- Stripping leaves text that is not blank so. -/
theorem isBlank_strip (text : Text) : isBlank (strip text) = isBlank text := by
  obtain ⟨lead, trail, whole, left, right⟩ := exists_strip text
  have front : isBlank lead = true := List.all_eq_true.2 left
  have back : isBlank trail = true := List.all_eq_true.2 right
  have cut : isBlank text = isBlank (lead ++ (strip text ++ trail)) := congrArg isBlank whole
  rw [cut]
  unfold isBlank at front back ⊢
  rw [List.all_append, List.all_append, front, back, Bool.true_and, Bool.and_true]

/-- A blank text is no text that is not blank. -/
theorem ne_of_isBlank {source : Text} (blank : isBlank source = true) (present : isBlank text = false) :
    text ≠ source := by
  rintro rfl
  rw [blank] at present
  cases present

/-- A blank text that is not empty is no text without white space. -/
theorem ne_of_noSpace {source : Text} (blank : isBlank source = true) (some : source ≠ [])
    (noSpace : ∀ c ∈ text, isSpace c = false) : text ≠ source := by
  rintro rfl
  obtain ⟨c, rest, rfl⟩ := List.exists_cons_of_ne_nil some
  have space : isSpace c = true := List.all_eq_true.1 blank c List.mem_cons_self
  rw [noSpace c List.mem_cons_self] at space
  cases space

end

end FixedExtract.Text
