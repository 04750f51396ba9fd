import FixedExtract.Proofs.Decimal.Plain
import FixedExtract.Proofs.Decimal.Spelled
import FixedExtract.Proofs.Decimal.Value
import FixedExtract.Proofs.Layout.Word
import FixedExtract.Proofs.Validation.Cache
import FixedExtract.Validation.Check
/-!
# Ranges as they are written

A hyphen between two bounds divides them, one in front of a bound is its sign. Which is which is never in doubt: a text
is a range in one way or in none. A number is accepted for a range exactly when it is between the numbers that the
bounds denote, both of them included, and no digit of any of the three is lost on the way.
-/

namespace FixedExtract.ValueRange

open Decimal (pointAnd written Spells spelled)

/-! ## Numerals -/

/-- A plain numeral: a minus sign or none, digits of any script, and perhaps a point with digits behind it. -/
@[ext]
structure Numeral where
  negative : Bool
  whole : Text
  fraction : Text
  nonEmpty : whole ≠ []
  wholeDigits : ∀ c ∈ whole, Text.isDecimalDigit c = true
  fractionDigits : ∀ c ∈ fraction, Text.isDecimalDigit c = true

/-- The value of a decimal digit of any script. -/
def digitOf (c : Char) : Nat := (Text.decimalValue? c).getD 0

namespace Numeral

/-- The numeral as it is written. -/
def text (n : Numeral) : Text := written n.negative n.whole n.fraction

/-- The decimal that the digits denote, with as many places behind the point as are written. -/
def decimal (n : Numeral) : Decimal :=
  ⟨n.negative, Text.valueOfDigits 10 ((n.whole ++ n.fraction).map digitOf), -(n.fraction.length : ℤ)⟩

/-- The numeral is no longer than the largest exponent of a decimal. -/
def IsShort (n : Numeral) : Prop := n.text.length ≤ 1000000000000000000

theorem written_text (n : Numeral) : Decimal.Written Text.isDecimalDigit n.text :=
  ⟨n.negative, n.whole, n.fraction, rfl, n.nonEmpty, n.wholeDigits, n.fractionDigits⟩

theorem isSpace_eq_false (n : Numeral) : ∀ c ∈ n.text, Text.isSpace c = false :=
  (n.written_text.imp fun _ _ => Text.isDigit_of_isDecimalDigit).isSpace_eq_false

theorem text_ne_nil (n : Numeral) : n.text ≠ [] := by
  intro none
  rw [text, written, List.append_eq_nil_iff, List.append_eq_nil_iff] at none
  exact n.nonEmpty none.2.1

end Numeral

/-! ## The decimal that a numeral denotes -/

theorem asciiDigit_of_isDecimalDigit {c : Char} (h : Text.isDecimalDigit c = true) :
    Text.isAsciiDigit (Text.asciiDigit c) = true ∧ Text.asciiDigitValue (Text.asciiDigit c) = digitOf c := by
  have table : ∀ v < 10, Text.isAsciiDigit (Char.ofNat (48 + v)) = true ∧
      Text.asciiDigitValue (Char.ofNat (48 + v)) = v := by decide
  obtain ⟨value, small, found⟩ := Text.decimalValue?_of_isDecimalDigit h
  rw [Text.asciiDigit, digitOf, found]
  exact table value small

/-- Decimal digits of any script are written in ASCII one by one. -/
theorem asciiForm?_decimalDigits {digits : Text} (decimal : ∀ c ∈ digits, Text.isDecimalDigit c = true) :
    Decimal.asciiForm? digits = some (digits.map Text.asciiDigit) := by
  induction digits with
  | nil => rfl
  | cons c rest ih =>
    have digit := decimal c List.mem_cons_self
    have plain : c ≠ '_' := by
      rintro rfl
      exact absurd digit (by decide)
    obtain ⟨value, -, found⟩ := Text.decimalValue?_of_isDecimalDigit digit
    rw [Decimal.asciiForm?, if_neg plain, ih fun d hd => decimal d (List.mem_cons_of_mem c hd), found]
    by_cases small : c.toNat < 128
    · -- An ASCII digit stays as it is.
      have isAscii := Text.isAsciiDigit_of_isDigit (Text.isDigit_of_isDecimalDigit digit) small
      have bounds := Text.isAsciiDigit_eq_true_iff.1 isAscii
      have same : Text.asciiDigit c = c := by
        rw [Text.asciiDigit, Text.decimalValue?_of_isAsciiDigit isAscii]
        show Char.ofNat (48 + (c.toNat - 48)) = c
        rw [show 48 + (c.toNat - 48) = c.toNat by omega, Char.ofNat_toNat]
      rw [if_pos small, List.map_cons, same]
      rfl
    · rw [if_neg small, List.map_cons, Text.asciiDigit, found]
      rfl

namespace Numeral

theorem spells (n : Numeral) :
    Spells n.text n.negative (n.whole.map Text.asciiDigit) (n.fraction.map Text.asciiDigit) 0 where
  ascii := by
    rw [← List.map_append]
    intro c hc
    obtain ⟨d, hd, rfl⟩ := List.mem_map.1 hc
    have digit := (List.mem_append.1 hd).elim (n.wholeDigits d) (n.fractionDigits d)
    exact (asciiDigit_of_isDecimalDigit digit).1
  nonEmpty := by simp [n.nonEmpty]
  parts := by
    have whole := asciiForm?_decimalDigits n.wholeDigits
    have fraction := asciiForm?_decimalDigits n.fractionDigits
    have point := Decimal.asciiForm?_pointAnd fraction (List.length_map _)
    have sign : Decimal.asciiForm? (if n.negative then ['-'] else []) = some (if n.negative then ['-'] else []) := by
      cases n.negative <;> decide
    have form : Decimal.asciiForm? (Text.strip n.text) = some ((if n.negative then ['-'] else []) ++
        (n.whole.map Text.asciiDigit ++ pointAnd (n.fraction.map Text.asciiDigit))) := by
      rw [Text.strip_eq_self n.isSpace_eq_false, text, written, Decimal.asciiForm?_append, sign,
        Decimal.asciiForm?_append, whole, point]
      rfl
    refine ⟨if n.negative then ['-'] else [], if n.fraction.map Text.asciiDigit = [] then [] else ['.'], [], ?_, ?_,
      .absent, ?_⟩
    · cases n.negative with
      | true => exact .inl ⟨rfl, rfl⟩
      | false => exact .inr ⟨.inr rfl, rfl⟩
    · split
      · next none => exact .inr ⟨rfl, none⟩
      · exact .inl rfl
    · rw [form, pointAnd, List.append_nil]
      by_cases none : n.fraction.map Text.asciiDigit = []
      · rw [if_pos none, if_pos none, none]
        rfl
      · rw [if_neg none, if_neg none]
        rfl

theorem spelled_eq (n : Numeral) :
    spelled n.negative (n.whole.map Text.asciiDigit) (n.fraction.map Text.asciiDigit) 0 = n.decimal := by
  have digits : ∀ c ∈ n.whole ++ n.fraction, Text.isDecimalDigit c = true := fun c hc =>
    (List.mem_append.1 hc).elim (n.wholeDigits c) (n.fractionDigits c)
  have values : (n.whole ++ n.fraction).map (Text.asciiDigitValue ∘ Text.asciiDigit) =
      (n.whole ++ n.fraction).map digitOf :=
    List.map_congr_left fun c hc => (asciiDigit_of_isDecimalDigit (digits c hc)).2
  rw [spelled, decimal, Decimal.digitsValue, ← List.map_append, List.map_map, values, List.length_map, zero_sub]

/-- If a numeral denotes a decimal, it is the one that its digits say. -/
theorem eq_decimal_of_read? (n : Numeral) {d : Decimal} (read : Decimal.read? n.text = some d) : d = n.decimal := by
  rw [n.spells.eq_of_read? read, n.spelled_eq]

theorem read?_text {n : Numeral} (short : n.IsShort) : Decimal.read? n.text = some n.decimal := by
  obtain ⟨d, read⟩ := Option.isSome_iff_exists.1 (n.written_text.read?_isSome short)
  rw [read, n.eq_decimal_of_read? read]

end Numeral

/-! ## Taking a numeral off the front of a text -/

section
variable {digits fraction rest text : Text}

theorem takeDigits?_append (nonEmpty : digits ≠ []) (decimal : ∀ c ∈ digits, Text.isDecimalDigit c = true)
    (ends : ∀ c ∈ rest.head?, Text.isDecimalDigit c = false) : takeDigits? (digits ++ rest) = some (digits, rest) := by
  have taken : (digits ++ rest).takeWhile Text.isDecimalDigit = digits := by
    rw [Text.takeWhile_append_apart ends, List.takeWhile_eq_self_iff.2 decimal]
  have dropped : (digits ++ rest).dropWhile Text.isDecimalDigit = rest := by
    rw [Text.dropWhile_append_apart ends, List.dropWhile_eq_nil_iff.2 decimal, List.nil_append]
  rw [takeDigits?, taken, dropped]
  exact if_neg (by simpa using nonEmpty)

theorem eq_append_of_takeDigits? (h : takeDigits? text = some (digits, rest)) :
    text = digits ++ rest ∧ digits ≠ [] ∧ ∀ c ∈ digits, Text.isDecimalDigit c = true := by
  unfold takeDigits? at h
  dsimp only at h
  split at h
  · cases h
  · next some =>
    cases h
    exact ⟨List.takeWhile_append_dropWhile.symm, by simpa using some, fun c hc => List.mem_takeWhile_imp hc⟩

/-- What stands behind a numeral does not go on with it. -/
def Ends (rest : Text) : Prop := ∀ c ∈ rest.head?, Text.isDecimalDigit c = false ∧ c ≠ '.'

theorem takeFraction_append (decimal : ∀ c ∈ fraction, Text.isDecimalDigit c = true) (ends : Ends rest) :
    takeFraction (pointAnd fraction ++ rest) = (pointAnd fraction, rest) := by
  unfold pointAnd
  split
  · -- Without a fraction there is no point, and none comes next.
    rw [List.nil_append]
    unfold takeFraction
    split
    · exact absurd rfl (ends '.' rfl).2
    · rfl
  · next some =>
    rw [List.cons_append, takeFraction, takeDigits?_append some decimal fun c hc => (ends c hc).1]

theorem eq_append_of_takeFraction (h : takeFraction text = (fraction, rest)) :
    text = fraction ++ rest ∧ ∃ digits, fraction = pointAnd digits ∧ ∀ c ∈ digits, Text.isDecimalDigit c = true := by
  have none : ∀ text : Text, ([], text) = (fraction, rest) → text = fraction ++ rest ∧
      ∃ digits, fraction = pointAnd digits ∧ ∀ c ∈ digits, Text.isDecimalDigit c = true := by
    intro text h
    cases h
    exact ⟨rfl, [], rfl, by simp⟩
  unfold takeFraction at h
  split at h
  · next behind =>
    split at h
    · next digits after found =>
      obtain ⟨rfl, some, decimal⟩ := eq_append_of_takeDigits? found
      cases h
      exact ⟨rfl, digits, (if_neg some).symm, decimal⟩
    · exact none _ h
  · exact none _ h

theorem takeNumeral?_signed (text : Text) : takeNumeral? ('-' :: text) =
    (takeDigits? text).map fun part =>
      (['-'] ++ part.1 ++ (takeFraction part.2).1, (takeFraction part.2).2) := rfl

theorem takeNumeral?_unsigned (noSign : ∀ c ∈ text.head?, c ≠ '-') : takeNumeral? text =
    (takeDigits? text).map fun part =>
      ([] ++ part.1 ++ (takeFraction part.2).1, (takeFraction part.2).2) := by
  cases text with
  | nil => rfl
  | cons first rest =>
    unfold takeNumeral?
    split
    · next same =>
      split at same
      · next minus => exact absurd (List.cons.inj minus).1 (noSign first rfl)
      · cases same
        rfl

/-- A numeral comes off the front of a text as a whole. -/
theorem takeNumeral?_append (n : Numeral) (ends : Ends rest) : takeNumeral? (n.text ++ rest) = some (n.text, rest) := by
  have behind : ∀ c ∈ (pointAnd n.fraction ++ rest).head?, Text.isDecimalDigit c = false := by
    unfold pointAnd
    split
    · exact fun c hc => (ends c hc).1
    · intro c hc
      cases hc
      decide
  have unsigned := takeDigits?_append n.nonEmpty n.wholeDigits behind
  have fraction := takeFraction_append n.fractionDigits ends
  rw [Numeral.text, written, List.append_assoc, List.append_assoc]
  cases n.negative with
  | true =>
    show takeNumeral? ('-' :: (n.whole ++ (pointAnd n.fraction ++ rest))) = _
    rw [takeNumeral?_signed, unsigned, Option.map_some]
    dsimp only
    rw [fraction]
    rfl
  | false =>
    have noSign : ∀ c ∈ (n.whole ++ (pointAnd n.fraction ++ rest)).head?, c ≠ '-' := by
      obtain ⟨first, others, whole⟩ := List.exists_cons_of_ne_nil n.nonEmpty
      rw [whole]
      rintro c hc rfl
      cases hc
      exact absurd (n.wholeDigits '-' (whole ▸ List.mem_cons_self)) (by decide)
    show takeNumeral? (n.whole ++ (pointAnd n.fraction ++ rest)) = _
    rw [takeNumeral?_unsigned noSign, unsigned, Option.map_some]
    dsimp only
    rw [fraction]
    rfl

theorem exists_of_takeNumeral? (h : takeNumeral? text = some (digits, rest)) :
    ∃ n : Numeral, n.text = digits ∧ text = n.text ++ rest := by
  have unsigned : ∀ (negative : Bool) (sign unsigned : Text), sign = (if negative then ['-'] else []) →
      ((takeDigits? unsigned).map fun part =>
        (sign ++ part.1 ++ (takeFraction part.2).1, (takeFraction part.2).2)) = some (digits, rest) →
      ∃ n : Numeral, n.text = digits ∧ sign ++ unsigned = n.text ++ rest := by
    rintro negative sign unsigned rfl h
    obtain ⟨⟨whole, behind⟩, found, made⟩ := Option.map_eq_some_iff.1 h
    obtain ⟨rfl, some, wholeDigits⟩ := eq_append_of_takeDigits? found
    obtain ⟨pointed, after, taken⟩ : ∃ pointed after, takeFraction behind = (pointed, after) := ⟨_, _, rfl⟩
    obtain ⟨rfl, fraction, rfl, fractionDigits⟩ := eq_append_of_takeFraction taken
    dsimp only at made
    rw [taken] at made
    cases made
    refine ⟨⟨negative, whole, fraction, some, wholeDigits, fractionDigits⟩, ?_, ?_⟩
    · rw [Numeral.text, written, List.append_assoc]
    · simp only [Numeral.text, written, List.append_assoc]
  by_cases minus : text.head? = some '-'
  · obtain ⟨rest, rfl⟩ := List.head?_eq_some_iff.1 minus
    exact unsigned true ['-'] rest rfl h
  · rw [takeNumeral?_unsigned fun c hc same => minus (same ▸ hc)] at h
    exact unsigned false [] text rfl h

theorem isNumeral_iff : isNumeral text = true ↔ ∃ n : Numeral, n.text = text := by
  constructor
  · intro h
    unfold isNumeral at h
    split at h
    · next found =>
      obtain ⟨n, -, same⟩ := exists_of_takeNumeral? found
      exact ⟨n, by rw [same, List.append_nil]⟩
    · cases h
  · rintro ⟨n, rfl⟩
    have whole : takeNumeral? (n.text ++ []) = some (n.text, []) := takeNumeral?_append n nofun
    rw [List.append_nil] at whole
    rw [isNumeral, whole]

end

/-! ## Ranges -/

/-- A range as it is written: two numerals with a separator between them, and white space around them. -/
@[ext]
structure Spelling where
  before : Text
  low : Numeral
  afterLow : Text
  separator : Char
  beforeHigh : Text
  high : Numeral
  after : Text
  spaces : ∀ c ∈ before ++ (afterLow ++ (beforeHigh ++ after)), Text.isSpace c = true
  separates : separator = '-' ∨ separator = ','

namespace Spelling

def text (s : Spelling) : Text :=
  s.before ++ (s.low.text ++ (s.afterLow ++ (s.separator :: (s.beforeHigh ++ (s.high.text ++ s.after)))))

/-- The decimals that the bounds denote. -/
def range (s : Spelling) : ValueRange := ⟨s.low.decimal, s.high.decimal⟩

/-- Neither bound is longer than the largest exponent of a decimal. -/
def IsShort (s : Spelling) : Prop := s.low.IsShort ∧ s.high.IsShort

theorem isSpace_before (s : Spelling) : ∀ c ∈ s.before, Text.isSpace c = true :=
  fun c hc => s.spaces c (List.mem_append_left _ hc)

theorem isSpace_afterLow (s : Spelling) : ∀ c ∈ s.afterLow, Text.isSpace c = true :=
  fun c hc => s.spaces c (List.mem_append_right _ (List.mem_append_left _ hc))

theorem isSpace_beforeHigh (s : Spelling) : ∀ c ∈ s.beforeHigh, Text.isSpace c = true :=
  fun c hc => s.spaces c (List.mem_append_right _ (List.mem_append_right _ (List.mem_append_left _ hc)))

theorem isSpace_after (s : Spelling) : ∀ c ∈ s.after, Text.isSpace c = true :=
  fun c hc => s.spaces c (List.mem_append_right _ (List.mem_append_right _ (List.mem_append_right _ hc)))

theorem isSpace_separator (s : Spelling) : Text.isSpace s.separator = false := by
  rcases s.separates with same | same <;> rw [same] <;> decide

end Spelling

section
variable {space rest text : Text}

theorem skipSpace_append (isSpace : ∀ c ∈ space, Text.isSpace c = true)
    (ends : ∀ c ∈ rest.head?, Text.isSpace c = false) : skipSpace (space ++ rest) = rest := by
  rw [skipSpace, Text.dropWhile_append_apart ends, List.dropWhile_eq_nil_iff.2 isSpace, List.nil_append]

theorem exists_skipSpace (text : Text) :
    ∃ space, (∀ c ∈ space, Text.isSpace c = true) ∧ text = space ++ skipSpace text :=
  ⟨text.takeWhile Text.isSpace, fun _ hc => List.mem_takeWhile_imp hc, List.takeWhile_append_dropWhile.symm⟩

/-- White space does not go on with a numeral. -/
theorem ends_of_isSpace (isSpace : ∀ c ∈ space, Text.isSpace c = true) (ends : Ends rest) : Ends (space ++ rest) := by
  cases space with
  | nil => exact ends
  | cons first others =>
    intro c hc
    cases hc
    have white := isSpace first List.mem_cons_self
    constructor
    · rw [Bool.eq_false_iff]
      intro digit
      rw [Text.isSpace_eq_false_of_isDigit (Text.isDigit_of_isDecimalDigit digit)] at white
      cases white
    · rintro rfl
      exact absurd white (by decide)

theorem ends_separator {separator : Char} (h : separator = '-' ∨ separator = ',') (rest : Text) :
    Ends (separator :: rest) := by
  intro c hc
  cases hc
  rcases h with rfl | rfl <;> decide

/-- A numeral does not start with white space. -/
theorem Numeral.head_append (n : Numeral) (rest : Text) : ∀ c ∈ (n.text ++ rest).head?, Text.isSpace c = false := by
  intro c hc
  rw [List.head?_append_of_ne_nil _ n.text_ne_nil] at hc
  exact n.isSpace_eq_false c (List.mem_of_mem_head? hc)

end

/-- The bounds that a text of this form is cut into, whatever they denote. -/
theorem read?_text_eq (s : Spelling) : read? s.text =
    (Decimal.read? s.low.text).bind fun low => (Decimal.read? s.high.text).map fun high => ⟨low, high⟩ := by
  have behindHigh : Ends s.after := by
    have whole : Ends (s.after ++ []) := ends_of_isSpace s.isSpace_after nofun
    rwa [List.append_nil] at whole
  have last : skipSpace s.after = [] := by
    have whole : skipSpace (s.after ++ []) = [] := skipSpace_append s.isSpace_after nofun
    rwa [List.append_nil] at whole
  have separator : ∀ c ∈ (s.separator :: (s.beforeHigh ++ (s.high.text ++ s.after))).head?, Text.isSpace c = false := by
    intro c hc
    cases hc
    exact s.isSpace_separator
  have first := skipSpace_append s.isSpace_before
    (s.low.head_append (s.afterLow ++ (s.separator :: (s.beforeHigh ++ (s.high.text ++ s.after)))))
  have low := takeNumeral?_append s.low
    (ends_of_isSpace s.isSpace_afterLow (ends_separator s.separates (s.beforeHigh ++ (s.high.text ++ s.after))))
  have between := skipSpace_append s.isSpace_afterLow separator
  have second := skipSpace_append s.isSpace_beforeHigh (s.high.head_append s.after)
  have high := takeNumeral?_append s.high behindHigh
  rw [read?, Spelling.text, first, low]
  simp only [Option.bind_eq_bind, Option.bind_some, between, second, high, last, if_pos s.separates, List.isEmpty_nil,
    if_true]
  cases Decimal.read? s.low.text <;> cases Decimal.read? s.high.text <;> rfl

/-- What is read has this form. -/
theorem exists_spelling {text : Text} {range : ValueRange} (h : read? text = some range) :
    ∃ s : Spelling, s.text = text := by
  obtain ⟨before, isBefore, cut⟩ := exists_skipSpace text
  obtain ⟨⟨lowText, behindLow⟩, lowTaken, h⟩ := Option.bind_eq_some_iff.1 h
  obtain ⟨low, -, lowCut⟩ := exists_of_takeNumeral? lowTaken
  obtain ⟨afterLow, isAfterLow, cutAfterLow⟩ := exists_skipSpace behindLow
  dsimp only at h
  split at h
  · next separator behind found =>
    split at h
    · next separates =>
      obtain ⟨⟨highText, behindHigh⟩, highTaken, h⟩ := Option.bind_eq_some_iff.1 h
      obtain ⟨high, -, highCut⟩ := exists_of_takeNumeral? highTaken
      obtain ⟨beforeHigh, isBeforeHigh, cutBeforeHigh⟩ := exists_skipSpace behind
      obtain ⟨after, isAfter, cutAfter⟩ := exists_skipSpace behindHigh
      dsimp only at h
      split at h
      · next finished =>
        rw [List.isEmpty_iff.1 finished, List.append_nil] at cutAfter
        subst cutAfter
        refine ⟨⟨before, low, afterLow, separator, beforeHigh, high, behindHigh, ?_, separates⟩, ?_⟩
        · intro c hc
          simp only [List.mem_append] at hc
          rcases hc with hc | hc | hc | hc
          · exact isBefore c hc
          · exact isAfterLow c hc
          · exact isBeforeHigh c hc
          · exact isAfter c hc
        · rw [Spelling.text, cut, lowCut, cutAfterLow, found, cutBeforeHigh, highCut]
      · cases h
    · cases h
  · cases h

/-! ## There is one form at most -/

/-- Where a run of one kind ends is seen from the text. -/
theorem append_inj_of_run {p : Char → Bool} {a b x y : Text} (ha : ∀ c ∈ a, p c = true) (hb : ∀ c ∈ b, p c = true)
    (hx : ∀ c ∈ x.head?, p c = false) (hy : ∀ c ∈ y.head?, p c = false) (h : a ++ x = b ++ y) : a = b ∧ x = y := by
  have same : a = b := by
    have runs := congrArg (List.takeWhile p) h
    rwa [Text.takeWhile_append_apart hx, Text.takeWhile_append_apart hy, List.takeWhile_eq_self_iff.2 ha,
      List.takeWhile_eq_self_iff.2 hb] at runs
  rw [same] at h
  exact ⟨same, List.append_cancel_left h⟩

namespace Numeral

theorem head?_text (n : Numeral) : n.text.head? = some '-' ↔ n.negative = true := by
  rw [text, written]
  cases n.negative with
  | true => exact iff_of_true rfl rfl
  | false =>
    refine iff_of_false ?_ Bool.false_ne_true
    obtain ⟨first, others, whole⟩ := List.exists_cons_of_ne_nil n.nonEmpty
    have digit := n.wholeDigits first (whole ▸ List.mem_cons_self)
    rw [whole]
    rintro minus
    cases minus
    exact absurd digit (by decide)

/-- The text says what the sign is, and which digits stand on either side of the point. -/
theorem eq_of_text_eq {n m : Numeral} (h : n.text = m.text) : n = m := by
  have ends : ∀ fraction : Text, ∀ c ∈ (pointAnd fraction).head?, Text.isDecimalDigit c = false := by
    intro fraction c hc
    unfold pointAnd at hc
    split at hc
    · cases hc
    · cases hc
      decide
  have sign : n.negative = m.negative := by
    rw [Bool.eq_iff_iff, ← head?_text, ← head?_text, h]
  rw [text, text, written, written, sign] at h
  obtain ⟨whole, fraction⟩ :=
    append_inj_of_run n.wholeDigits m.wholeDigits (ends _) (ends _) (List.append_cancel_left h)
  exact Numeral.ext sign whole (Decimal.pointAnd_injective fraction)

theorem append_inj {n m : Numeral} {x y : Text} (hx : Ends x) (hy : Ends y) (h : n.text ++ x = m.text ++ y) :
    n = m ∧ x = y := by
  have taken := takeNumeral?_append n hx
  rw [h, takeNumeral?_append m hy] at taken
  obtain ⟨numerals, rests⟩ := Prod.mk.inj (Option.some.inj taken)
  exact ⟨eq_of_text_eq numerals.symm, rests.symm⟩

end Numeral

/-- A text has this form in one way. -/
theorem Spelling.eq_of_text_eq {s t : Spelling} (h : s.text = t.text) : s = t := by
  have separator : ∀ s : Spelling,
      ∀ c ∈ (s.separator :: (s.beforeHigh ++ (s.high.text ++ s.after))).head?, Text.isSpace c = false := by
    intro s c hc
    cases hc
    exact s.isSpace_separator
  have behindLow : ∀ s : Spelling, Ends (s.afterLow ++ (s.separator :: (s.beforeHigh ++ (s.high.text ++ s.after)))) :=
    fun s => ends_of_isSpace s.isSpace_afterLow (ends_separator s.separates _)
  have behindHigh : ∀ s : Spelling, Ends s.after := by
    intro s
    have whole : Ends (s.after ++ []) := ends_of_isSpace s.isSpace_after nofun
    rwa [List.append_nil] at whole
  obtain ⟨before, h⟩ :=
    append_inj_of_run s.isSpace_before t.isSpace_before (s.low.head_append _) (t.low.head_append _) h
  obtain ⟨low, h⟩ := Numeral.append_inj (behindLow s) (behindLow t) h
  obtain ⟨afterLow, h⟩ :=
    append_inj_of_run s.isSpace_afterLow t.isSpace_afterLow (separator s) (separator t) h
  obtain ⟨separator, h⟩ := List.cons.inj h
  obtain ⟨beforeHigh, h⟩ :=
    append_inj_of_run s.isSpace_beforeHigh t.isSpace_beforeHigh (s.high.head_append _) (t.high.head_append _) h
  obtain ⟨high, after⟩ := Numeral.append_inj (behindHigh s) (behindHigh t) h
  exact Spelling.ext before low afterLow separator beforeHigh high after

theorem read?_spelling {s : Spelling} (short : s.IsShort) : read? s.text = some s.range := by
  rw [read?_text_eq, Numeral.read?_text short.1, Numeral.read?_text short.2]
  rfl

theorem exists_spelling_range {text : Text} {range : ValueRange} (h : read? text = some range) :
    ∃ s : Spelling, s.text = text ∧ s.range = range := by
  obtain ⟨s, rfl⟩ := exists_spelling h
  rw [read?_text_eq] at h
  obtain ⟨low, lowRead, h⟩ := Option.bind_eq_some_iff.1 h
  obtain ⟨high, highRead, rfl⟩ := Option.map_eq_some_iff.1 h
  rw [s.low.eq_decimal_of_read? lowRead, s.high.eq_decimal_of_read? highRead]
  exact ⟨s, rfl, rfl⟩

/-! ## Rules with a range -/

theorem contains_iff {range : ValueRange} {d : Decimal} :
    range.contains d = true ↔ range.low.value ≤ d.value ∧ d.value ≤ range.high.value := by
  rw [contains, Bool.and_eq_true, Bool.not_eq_true', Bool.not_eq_true', Bool.eq_false_iff, Bool.eq_false_iff, Ne, Ne,
    Decimal.lt_iff, Decimal.lt_iff, not_lt, not_lt]

/-- A text with a character that is no white space is not blank. -/
theorem isBlank_append_eq_false {a b c : Text} {first : Char} (white : Text.isSpace first = false)
    (h : b.head? = some first) : Text.isBlank (a ++ (b ++ c)) = false := by
  obtain ⟨rest, rfl⟩ := List.head?_eq_some_iff.1 h
  rw [Text.isBlank, List.all_eq_false]
  exact ⟨first, by simp, by rw [white]; exact Bool.false_ne_true⟩

theorem Spelling.isBlank_text (s : Spelling) : Text.isBlank s.text = false := by
  obtain ⟨first, rest, low⟩ := List.exists_cons_of_ne_nil s.low.text_ne_nil
  have white := s.low.isSpace_eq_false first (low ▸ List.mem_cons_self)
  exact isBlank_append_eq_false white (by rw [low, List.head?_cons])

/-- A number between the bounds, both of them included. -/
def Between (range : ValueRange) (d : Decimal) : Prop := range.low.value ≤ d.value ∧ d.value ≤ range.high.value

theorem parse_eq_ok_iff {text : Text} {range : ValueRange} : parse text = .ok range ↔ read? text = some range := by
  unfold parse
  cases read? text with
  | none => exact iff_of_false nofun nofun
  | some other => rw [Except.ok.injEq, Option.some.injEq]

theorem parse_eq_error {text : Text} (none : ∀ s : Spelling, s.text ≠ text) : parse text = .error (failure text) := by
  unfold parse
  cases found : read? text with
  | none => rfl
  | some range =>
    obtain ⟨s, same⟩ := exists_spelling found
    exact absurd same (none s)

section
variable {rule : Rule} {s : Spelling} {value : Text} (lookup : Option ReferenceLookup) (cache : PatternCache)
  (field : Text)

/-- Does a rule accept a value that is there? -/
def accepts (rule : Rule) (value : Text) : Bool := (cache.check lookup rule field (some value)).1.valid

theorem valid_ofTest (rule : Rule) (field : Text) (value : Option Text) (holds : Bool) (message : Text) :
    ((Verdict.ofTest holds message).result rule field value).valid = holds := by
  cases holds <;> rfl

/-- The kinds of the rules with a range have no pattern, so a value that is not blank is only put to their own check. -/
theorem check_eq_result (kind : rule.kind = .numeric ∨ rule.kind = .range) (value : Option Text) :
    (PatternCache.check lookup cache rule field value).1 = Check.result lookup none rule field value := by
  have unneeded : rule.needsPattern value = false := by
    rcases kind with kind | kind <;> rw [Rule.needsPattern, kind] <;> rfl
  rw [PatternCache.check_of_unneeded unneeded]

/-- The check of the bounds finds the range as it is written. -/
theorem bounds_eq (given : rule.range = some s.text) (short : s.IsShort) (number : Decimal) :
    ∃ message, Check.bounds rule field number = .ok (.ofTest (s.range.contains number) message) := by
  have kept : rule.range.filter (fun text => !Text.isBlank text) = some s.text := by
    rw [given, Option.filter_some, s.isBlank_text]
    rfl
  rw [Check.bounds, kept]
  dsimp only
  rw [read?_spelling short]
  exact ⟨_, rfl⟩

variable (present : Text.isBlank value = false)
include present

theorem accepts_eq_of_verdict (kind : rule.kind = .numeric ∨ rule.kind = .range) {holds : Bool} (message : Text)
    (verdict : Check.contents lookup none rule field value = .ok (.ofTest holds message)) :
    accepts lookup cache field rule value = holds := by
  have whole : Check.verdict lookup none rule field (some value) = .ok (.ofTest holds message) := by
    rw [← verdict]
    rcases kind with kind | kind <;> simp only [Check.verdict, kind, present, Bool.false_eq_true, if_false]
  rw [accepts, check_eq_result lookup cache field kind, Check.result, whole]
  exact valid_ofTest _ _ _ _ _

/-- A rule for numerals accepts a number that is written as a plain numeral and in the range. -/
theorem accepts_numeric (kind : rule.kind = .numeric) (given : rule.range = some s.text) (short : s.IsShort)
    {d : Decimal} (read : Decimal.read? (Text.strip value) = some d) :
    accepts lookup cache field rule value = (isNumeral (Text.strip value) && s.range.contains d) := by
  obtain ⟨message, bounded⟩ := bounds_eq field given short d
  have check : Check.contents lookup none rule field value = Check.numeric rule field value := by
    rw [Check.contents, kind]
  cases plain : isNumeral (Text.strip value) with
  | true =>
    refine accepts_eq_of_verdict lookup cache field present (.inl kind) message ?_
    rw [check, Check.numeric, read, Option.filter_some, plain]
    exact bounded
  | false =>
    refine accepts_eq_of_verdict lookup cache field present (.inl kind) (field ++ " must be a valid number") ?_
    rw [check, Check.numeric, read, Option.filter_some, plain]
    rfl

/-- A rule for numbers accepts a number in the range, however it is written. -/
theorem accepts_range (kind : rule.kind = .range) (given : rule.range = some s.text) (short : s.IsShort)
    {d : Decimal} (read : Decimal.read? (Text.strip value) = some d) :
    accepts lookup cache field rule value = s.range.contains d := by
  obtain ⟨message, bounded⟩ := bounds_eq field given short d
  refine accepts_eq_of_verdict lookup cache field present (.inr kind) message ?_
  rw [Check.contents, kind]
  dsimp only
  rw [Check.range, read]
  exact bounded

/-- Neither accepts what is no number. -/
theorem accepts_eq_false (kind : rule.kind = .numeric ∨ rule.kind = .range)
    (unread : Decimal.read? (Text.strip value) = none) : accepts lookup cache field rule value = false := by
  rcases kind with kind | kind
  · refine accepts_eq_of_verdict lookup cache field present (.inl kind) (field ++ " must be a valid number") ?_
    rw [Check.contents, kind]
    dsimp only
    rw [Check.numeric, unread]
    rfl
  · refine accepts_eq_of_verdict lookup cache field present (.inr kind)
      (field ++ " must be a valid number for range validation") ?_
    rw [Check.contents, kind]
    dsimp only
    rw [Check.range, unread]
    rfl

end

/-- A text is a range in one way or in none, and its bounds are the numbers that are written. A rule with a range
accepts a value that is not blank exactly when it is a number between the bounds; for a numeric rule it must be a plain
numeral. -/
theorem ranges_decide :
    (∀ s : Spelling, s.IsShort → parse s.text = .ok s.range) ∧
    (∀ text range, parse text = .ok range → ∃! s : Spelling, s.text = text ∧ s.range = range) ∧
    (∀ s t : Spelling, s.text = t.text → s = t) ∧
    (∀ text, (∀ s : Spelling, s.text ≠ text) →
      parse text = .error (failure text) ∧ (failure text).cls = .ruleDefinition) ∧
    ∀ (s : Spelling) (rule : Rule) (value : Text) (lookup : Option ReferenceLookup) (cache : PatternCache) (field : Text),
      s.IsShort → rule.range = some s.text → Text.isBlank value = false →
        (rule.kind = .numeric →
          (∀ n : Numeral, n.IsShort → Text.strip value = n.text →
            (accepts lookup cache field rule value = true ↔ s.range.Between n.decimal)) ∧
          ((∀ n : Numeral, Text.strip value ≠ n.text) → accepts lookup cache field rule value = false)) ∧
        (rule.kind = .range →
          (∀ negative whole fraction exponent, Decimal.read? (Text.strip value) ≠ none →
            Spells (Text.strip value) negative whole fraction exponent →
              (accepts lookup cache field rule value = true ↔
                s.range.Between (spelled negative whole fraction exponent))) ∧
          (Decimal.read? (Text.strip value) = none → accepts lookup cache field rule value = false)) := by
  refine ⟨fun s short => parse_eq_ok_iff.2 (read?_spelling short), ?_, fun s t => Spelling.eq_of_text_eq, ?_, ?_⟩
  · intro text range parsed
    obtain ⟨s, same, denoted⟩ := exists_spelling_range (parse_eq_ok_iff.1 parsed)
    exact ⟨s, ⟨same, denoted⟩, fun t other => Spelling.eq_of_text_eq (other.1.trans same.symm)⟩
  · exact fun text none => ⟨parse_eq_error none, rfl⟩
  · intro s rule value lookup cache field short given present
    refine ⟨fun kind => ⟨?_, ?_⟩, fun kind => ⟨?_, ?_⟩⟩
    · intro n shortNumeral same
      have read : Decimal.read? (Text.strip value) = some n.decimal := by rw [same, Numeral.read?_text shortNumeral]
      have plain : isNumeral (Text.strip value) = true := isNumeral_iff.2 ⟨n, same.symm⟩
      rw [accepts_numeric lookup cache field present kind given short read, plain, Bool.true_and, contains_iff, Between]
    · intro odd
      cases read : Decimal.read? (Text.strip value) with
      | none => exact accepts_eq_false lookup cache field present (.inl kind) read
      | some d =>
        have plain : isNumeral (Text.strip value) = false := by
          rw [Bool.eq_false_iff]
          intro numeral
          obtain ⟨n, same⟩ := isNumeral_iff.1 numeral
          exact odd n same.symm
        rw [accepts_numeric lookup cache field present kind given short read, plain, Bool.false_and]
    · intro negative whole fraction exponent some spells
      obtain ⟨d, read⟩ := Option.ne_none_iff_exists'.1 some
      rw [accepts_range lookup cache field present kind given short read, contains_iff, Between,
        ← spells.eq_of_read? read]
    · exact accepts_eq_false lookup cache field present (.inr kind)

/-- The range from minus five to minus three, with white space around the hyphen that divides its bounds. -/
def Spelling.negative : Spelling where
  before := []
  low := ⟨true, ['5'], [], by decide, List.all_eq_true.1 rfl, List.all_eq_true.1 rfl⟩
  afterLow := [' ']
  separator := '-'
  beforeHigh := [' ']
  high := ⟨true, ['3'], [], by decide, List.all_eq_true.1 rfl, List.all_eq_true.1 rfl⟩
  after := []
  spaces := List.all_eq_true.1 rfl
  separates := .inl rfl

/-- A rule of a kind with that range. -/
def negativeRule (kind : RuleKind) : Rule :=
  { PatternCache.patternRule "R" "AMOUNT" [] 1 with kind := kind, pattern := none, range := some "-5 - -3" }

theorem ranges_decide_negative :
    Spelling.negative.text = "-5 - -3" ∧ Spelling.negative.IsShort ∧
    parse "-5 - -3" = .ok ⟨⟨true, 5, 0⟩, ⟨true, 3, 0⟩⟩ ∧
    accepts none .empty "AMOUNT" (negativeRule .numeric) " -3.0" = true ∧
    accepts none .empty "AMOUNT" (negativeRule .numeric) "-.45e1" = false ∧
    accepts none .empty "AMOUNT" (negativeRule .range) "-.45e1" = true := by
  obtain ⟨read, -, -, -, decides⟩ := ranges_decide
  have text : Spelling.negative.text = "-5 - -3" := by decide
  have short : Spelling.negative.IsShort := by
    constructor <;> unfold Numeral.IsShort <;> decide
  have numeric (value : Text) (present : Text.isBlank value = false) :=
    (decides _ (negativeRule .numeric) value none .empty "AMOUNT" short rfl present).1 rfl
  have range (value : Text) (present : Text.isBlank value = false) :=
    (decides _ (negativeRule .range) value none .empty "AMOUNT" short rfl present).2 rfl
  refine ⟨text, short, ?_, ?_, ?_, ?_⟩
  · rw [← text, read _ short]
    rfl
  · let minusThree : Numeral :=
      ⟨true, ['3'], ['0'], by decide, List.all_eq_true.1 rfl, List.all_eq_true.1 rfl⟩
    refine ((numeric " -3.0" (by decide)).1 minusThree ?_ (by decide)).2
      (contains_iff.1 (by decide))
    unfold Numeral.IsShort
    decide
  · refine (numeric "-.45e1" (by decide)).2 fun n same => ?_
    exact absurd (isNumeral_iff.2 ⟨n, same.symm⟩) (by decide)
  · have spells : Spells (Text.strip "-.45e1") true [] ['4', '5'] 1 := by
      have mark : Decimal.ExponentMark ('e' :: ([] ++ ['1'])) 1 :=
        .present (.inl rfl) (.inr ⟨.inr rfl, rfl⟩) (by decide) (List.all_eq_true.1 rfl)
      exact ⟨List.all_eq_true.1 rfl, by decide, ['-'], ['.'], ['e', '1'], .inl ⟨rfl, rfl⟩, .inl rfl, mark, by decide⟩
    exact ((range "-.45e1" (by decide)).1 true [] ['4', '5'] 1 (by decide) spells).2 (contains_iff.1 (by decide))

end FixedExtract.ValueRange
