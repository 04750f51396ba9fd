import FixedExtract.Proofs.Calendar.Digits
import FixedExtract.Proofs.Decimal.Correct
/-!
# Plain notation

A number is shown in plain notation by its digits before the point and behind it: no exponent, no zero too many at
either end, and no sign on zero. A number is shown by one text only. So a text that is made of a decimal depends on
nothing but the number that the decimal is rounded to.
-/

namespace FixedExtract.Decimal

/-- The digits before the point and those behind it are those of the number. -/
structure DigitsOf (x : ℚ) (negative : Bool) (whole fraction : Text) : Prop where
  nonEmpty : whole ≠ []
  ascii : ∀ c ∈ whole ++ fraction, Text.isAsciiDigit c = true
  leading : whole.head? = some '0' → whole.length = 1
  trailing : fraction.getLast? ≠ some '0'
  sign : negative = true → x ≠ 0
  value : x = (if negative then -1 else 1) * (digitsValue (whole ++ fraction) / 10 ^ fraction.length)

/-- The text shows the number in plain notation. -/
def IsPlain (text : Text) (x : ℚ) : Prop :=
  ∃ negative whole fraction, text = written negative whole fraction ∧ DigitsOf x negative whole fraction

/-! ## A number is shown by one text -/

section
variable {x : ℚ} {negative other : Bool} {whole fraction whole' fraction' : Text}

/-- Digits of which the first is no zero have at least the value of a one with zeros. -/
theorem pow_le_digitsValue {first : Char} {rest : Text} (ascii : ∀ c ∈ first :: rest, Text.isAsciiDigit c = true)
    (leading : first ≠ '0') : 10 ^ rest.length ≤ digitsValue (first :: rest) := by
  induction rest using List.reverseRecOn with
  | nil =>
    have digit := Text.isAsciiDigit_eq_true_iff.1 (ascii first List.mem_cons_self)
    have nonzero : first.toNat ≠ 48 := fun same => leading (Char.toNat_inj.1 same)
    show 1 ≤ 0 * 10 + (first.toNat - 48)
    omega
  | append_singleton rest c ih =>
    have front := ih fun d hd => ascii d (by
      rw [← List.cons_append]
      exact List.mem_append_left _ hd)
    rw [← List.cons_append, digitsValue_concat, List.length_append, List.length_singleton, pow_succ]
    omega

namespace DigitsOf

theorem abs_mul_pow (h : DigitsOf x negative whole fraction) :
    |x| * 10 ^ fraction.length = digitsValue (whole ++ fraction) := by
  have power : (0 : ℚ) < 10 ^ fraction.length := by positivity
  have size : |x| = digitsValue (whole ++ fraction) / 10 ^ fraction.length := by
    rw [h.value, abs_mul, abs_of_nonneg (show (0 : ℚ) ≤ digitsValue (whole ++ fraction) / 10 ^ fraction.length by
      positivity)]
    cases negative <;> simp
  rw [size, div_mul_cancel₀ _ power.ne']

theorem negative_iff (h : DigitsOf x negative whole fraction) : negative = true ↔ x < 0 := by
  have size : (0 : ℚ) ≤ digitsValue (whole ++ fraction) / 10 ^ fraction.length := by positivity
  have value := h.value
  constructor
  · intro sign
    rw [if_pos sign] at value
    exact lt_of_le_of_ne (by linarith) (h.sign sign)
  · intro below
    by_contra positive
    rw [if_neg positive] at value
    linarith

/-- A fraction ends in its last digit, so the same number is not shown with more of them. -/
theorem length_le (h : DigitsOf x negative whole fraction) (h' : DigitsOf x other whole' fraction') :
    fraction'.length ≤ fraction.length := by
  by_contra longer
  obtain ⟨more, hm⟩ : ∃ more, fraction'.length = fraction.length + (more + 1) :=
    ⟨fraction'.length - fraction.length - 1, by omega⟩
  -- All the digits together would then be those of the other with zeros at the end.
  have scaled : digitsValue (whole' ++ fraction') = digitsValue (whole ++ fraction) * 10 ^ more * 10 := by
    have both := h'.abs_mul_pow
    rw [hm, pow_add, ← mul_assoc, h.abs_mul_pow] at both
    rw [mul_assoc, ← pow_succ]
    exact_mod_cast both.symm
  obtain ⟨front, c, rfl⟩ : ∃ front c, fraction' = front ++ [c] := by
    refine ⟨fraction'.dropLast, fraction'.getLast ?_, (List.dropLast_append_getLast _).symm⟩
    rintro rfl
    rw [List.length_nil] at hm
    omega
  have digit := Text.isAsciiDigit_eq_true_iff.1 (h'.ascii c (by simp))
  rw [← List.append_assoc, digitsValue_concat, Text.asciiDigitValue] at scaled
  have zero : c = '0' := by
    apply Char.toNat_inj.1
    show c.toNat = 48
    omega
  exact h'.trailing (by rw [zero, List.getLast?_concat])

/-- Before the point there are no more digits than the number has. -/
theorem whole_length_le (h : DigitsOf x negative whole fraction) (h' : DigitsOf x other whole' fraction')
    (same : digitsValue (whole ++ fraction) = digitsValue (whole' ++ fraction'))
    (behind : fraction.length = fraction'.length) : whole'.length ≤ whole.length := by
  by_contra longer
  obtain ⟨first, rest, rfl⟩ := List.exists_cons_of_ne_nil h'.nonEmpty
  have nonEmpty := List.length_pos_iff.2 h.nonEmpty
  have leading : first ≠ '0' := by
    rintro rfl
    have := h'.leading rfl
    omega
  -- A digit other than zero that is further up makes the value larger than all the other digits can.
  have low := @pow_le_digitsValue first (rest ++ fraction') h'.ascii leading
  have high := digitsValue_lt h.ascii
  have power : 10 ^ (whole ++ fraction).length ≤ 10 ^ (rest ++ fraction').length := by
    refine Nat.pow_le_pow_right (by decide) ?_
    rw [List.length_append, List.length_append]
    rw [List.length_cons] at longer
    omega
  rw [← List.cons_append, ← same] at low
  omega

end DigitsOf

/-- A number is shown by one text. -/
theorem IsPlain.unique {text text' : Text} (h : IsPlain text x) (h' : IsPlain text' x) : text = text' := by
  obtain ⟨negative, whole, fraction, rfl, digits⟩ := h
  obtain ⟨other, whole', fraction', rfl, digits'⟩ := h'
  have sign : negative = other := Bool.eq_iff_iff.2 (digits.negative_iff.trans digits'.negative_iff.symm)
  have behind : fraction.length = fraction'.length := le_antisymm (digits'.length_le digits) (digits.length_le digits')
  have same : digitsValue (whole ++ fraction) = digitsValue (whole' ++ fraction') := by
    have both := digits.abs_mul_pow
    rw [behind, digits'.abs_mul_pow] at both
    exact_mod_cast both.symm
  have before : whole.length = whole'.length :=
    le_antisymm (digits'.whole_length_le digits same.symm behind.symm) (digits.whole_length_le digits' same behind)
  -- With as many digits on either side of the point, the same value has the same digits.
  have all : whole ++ fraction = whole' ++ fraction' := by
    refine IsDigits.eq_of_value_eq ⟨rfl, digits.ascii⟩ ⟨?_, digits'.ascii⟩ same
    rw [List.length_append, List.length_append, before, behind]
  obtain ⟨rfl, rfl⟩ := List.append_inj all before
  rw [sign]

end

/-! ## A text shows one number -/

theorem pointAnd_injective {fraction fraction' : Text} (h : pointAnd fraction = pointAnd fraction') :
    fraction = fraction' := by
  unfold pointAnd at h
  split at h
  · next none =>
    split at h
    · next none' => rw [none, none']
    · cases h
  · split at h
    · cases h
    · exact (List.cons.inj h).2

/-- The text says what the digits are. -/
theorem written_injective {negative other : Bool} {whole fraction whole' fraction' : Text} (filled : whole ≠ [])
    (filled' : whole' ≠ []) (ascii : ∀ c ∈ whole, Text.isAsciiDigit c = true)
    (ascii' : ∀ c ∈ whole', Text.isAsciiDigit c = true)
    (h : written negative whole fraction = written other whole' fraction') :
    negative = other ∧ whole = whole' ∧ fraction = fraction' := by
  have signs : splitSign (written negative whole fraction) = (negative, whole ++ pointAnd fraction) :=
    splitSign_written negative filled ascii
  rw [h, splitSign_written other filled' ascii', Prod.mk.injEq] at signs
  obtain ⟨sign, rest⟩ := signs
  have spans := span_digits ascii (pointAnd_ends fraction)
  obtain ⟨taken, dropped⟩ := span_digits ascii' (pointAnd_ends fraction')
  rw [← rest, taken, dropped] at spans
  exact ⟨sign.symm, spans.1.symm, (pointAnd_injective spans.2).symm⟩

/-- A text shows at most one number. -/
theorem IsPlain.value_unique {text : Text} {x y : ℚ} (h : IsPlain text x) (h' : IsPlain text y) : x = y := by
  obtain ⟨negative, whole, fraction, rfl, digits⟩ := h
  obtain ⟨other, whole', fraction', same, digits'⟩ := h'
  obtain ⟨rfl, rfl, rfl⟩ := written_injective digits.nonEmpty digits'.nonEmpty
    (fun c hc => digits.ascii c (List.mem_append_left _ hc))
    (fun c hc => digits'.ascii c (List.mem_append_left _ hc)) same
  rw [digits.value, digits'.value]

/-! ## Decimals with no zero at their end -/

variable {p : Precision} {d r : Decimal} {x : ℚ}

theorem toDigits_eq (n : ℕ) : Nat.toDigits 10 n = zeroFilled (digitCount n) n := by
  rw [zeroFilled, Text.ofNat, digitCount, Nat.sub_self]
  rfl

theorem isDigits_toDigits (n : ℕ) : IsDigits (digitCount n) (Nat.toDigits 10 n) := by
  rw [toDigits_eq]
  exact (zeroFilled_spec (lt_pow_digitCount n) (digitCount_pos n)).1

theorem head?_toDigits {n : ℕ} (nonzero : n ≠ 0) : (Nat.toDigits 10 n).head? ≠ some '0' := by
  obtain ⟨digits, numeral⟩ := Text.exists_isNumeral (show 1 < 10 by decide) n
  rcases numeral.zero_or_leading with ⟨zero, -⟩ | ⟨first, rest, rfl, leading⟩
  · exact absurd zero nonzero
  · rw [numeral.written]
    simpa using leading

/-- The digits on both sides of the point are the coefficient, with zeros in front if there are too few. -/
theorem exists_pointed (coefficient places : ℕ) : ∃ whole fraction,
    pointed coefficient places = whole ++ pointAnd fraction ∧ fraction.length = places ∧
      whole ++ fraction = zeroFilled (max (places + 1) (digitCount coefficient)) coefficient := by
  have count : (Nat.toDigits 10 coefficient).length = digitCount coefficient := rfl
  have positive := digitCount_pos coefficient
  unfold pointed
  dsimp only
  rw [count]
  split
  · next none =>
    refine ⟨Nat.toDigits 10 coefficient, [], by rw [pointAnd, if_pos rfl, List.append_nil], none.symm, ?_⟩
    rw [List.append_nil, none, max_eq_right (by omega), toDigits_eq]
  · next some =>
    split
    · next enough =>
      have length : ((Nat.toDigits 10 coefficient).drop (digitCount coefficient - places)).length = places := by
        rw [List.length_drop, count]
        omega
      refine ⟨(Nat.toDigits 10 coefficient).take (digitCount coefficient - places), _, ?_, length, ?_⟩
      · rw [pointAnd, if_neg]
        intro none
        rw [none] at length
        exact some length.symm
      · rw [List.take_append_drop, max_eq_right (by omega), toDigits_eq]
    · next few =>
      refine ⟨['0'], List.replicate (places - digitCount coefficient) '0' ++ Nat.toDigits 10 coefficient, ?_, ?_, ?_⟩
      · rw [pointAnd, if_neg]
        · rfl
        · intro none
          have := congrArg List.length none
          rw [List.length_append, count, List.length_nil] at this
          omega
      · rw [List.length_append, List.length_replicate, count]
        omega
      · rw [max_eq_left (by omega), zeroFilled, Text.ofNat, count,
          show places + 1 - digitCount coefficient = places - digitCount coefficient + 1 by omega]
        rfl

section
variable {coefficient : ℕ}

theorem signed_ne_zero (negative : Bool) {y : ℚ} (positive : 0 < y) : (if negative then -1 else 1) * y ≠ 0 := by
  cases negative with
  | true => exact (by linarith : (-1 : ℚ) * y < 0).ne
  | false => exact (by linarith : (0 : ℚ) < 1 * y).ne'

/-- A coefficient that does not end in a zero, with a point so many places from its end. -/
theorem exists_digitsOf_pointed (negative : Bool) (ends : coefficient % 10 ≠ 0) (places : ℕ) : ∃ whole fraction,
    pointed coefficient places = whole ++ pointAnd fraction ∧
      DigitsOf ((if negative then -1 else 1) * (coefficient / 10 ^ places)) negative whole fraction := by
  have positive : 0 < coefficient := by omega
  obtain ⟨whole, fraction, hp, length, all⟩ := exists_pointed coefficient places
  have few : coefficient < 10 ^ max (places + 1) (digitCount coefficient) :=
    (lt_pow_digitCount _).trans_le (Nat.pow_le_pow_right (by decide) (le_max_right _ _))
  obtain ⟨digits, same⟩ := zeroFilled_spec few (by omega)
  rw [← all] at digits same
  have count := digits.length
  rw [List.length_append] at count
  have nonEmpty : whole ≠ [] := by
    rintro rfl
    rw [List.length_nil] at count
    omega
  refine ⟨whole, fraction, hp, nonEmpty, digits.ascii, ?_, ?_, fun _ => signed_ne_zero negative (by positivity), ?_⟩
  · -- More than one digit before the point are those of the coefficient alone.
    intro zero
    by_contra several
    have := List.length_pos_iff.2 nonEmpty
    rw [max_eq_right (by omega), ← toDigits_eq] at all
    have front := head?_toDigits positive.ne'
    rw [← all, List.head?_append_of_ne_nil _ nonEmpty] at front
    exact front zero
  · -- The last digit behind the point is that of the coefficient.
    intro zero
    obtain ⟨front, rfl⟩ := List.getLast?_eq_some_iff.1 zero
    rw [← List.append_assoc, digitsValue_concat] at same
    have : Text.asciiDigitValue '0' = 0 := rfl
    omega
  · rw [same, length]

theorem digitsValue_zeros (coefficient count : ℕ) :
    digitsValue (Nat.toDigits 10 coefficient ++ List.replicate count '0') = coefficient * 10 ^ count := by
  induction count with
  | zero =>
    have same := (zeroFilled_spec (lt_pow_digitCount coefficient) (digitCount_pos coefficient)).2
    rw [List.replicate_zero, List.append_nil, toDigits_eq, same, pow_zero, mul_one]
  | succ count ih =>
    rw [List.replicate_succ', ← List.append_assoc, digitsValue_concat, ih, pow_succ, ← mul_assoc]
    rfl

/-- A coefficient other than zero, with so many zeros behind it. -/
theorem digitsOf_zeros (negative : Bool) (positive : 0 < coefficient) (count : ℕ) :
    DigitsOf ((if negative then -1 else 1) * (coefficient * 10 ^ count)) negative
      (Nat.toDigits 10 coefficient ++ List.replicate count '0') [] := by
  have digits := isDigits_toDigits coefficient
  have nonEmpty : Nat.toDigits 10 coefficient ≠ [] := by
    rw [← List.length_pos_iff, digits.length]
    exact digitCount_pos _
  refine ⟨by simp, ?_, ?_, by simp, fun _ => signed_ne_zero negative (by positivity), ?_⟩
  · intro c hc
    rw [List.append_nil, List.mem_append] at hc
    rcases hc with digit | zero
    · exact digits.ascii c digit
    · rw [List.eq_of_mem_replicate zero]
      decide
  · intro zero
    rw [List.head?_append_of_ne_nil _ nonEmpty] at zero
    exact absurd zero (head?_toDigits positive.ne')
  · rw [List.append_nil, digitsValue_zeros, List.length_nil, pow_zero, div_one]
    push_cast
    rfl

end

/-- A coefficient that does not end in a zero is shown in full. -/
theorem isPlain_plain (ends : d.coefficient % 10 ≠ 0) : IsPlain (plain d) d.value := by
  have value : d.value = (if d.negative then -1 else 1) * (d.coefficient * 10 ^ d.exponent) := by
    rw [Decimal.value, signed]
    cases d.negative <;> simp
  unfold plain
  dsimp only
  split
  · next point =>
    obtain ⟨whole, fraction, hp, digits⟩ := exists_digitsOf_pointed d.negative ends (-d.exponent).toNat
    refine ⟨d.negative, whole, fraction, by rw [hp]; rfl, ?_⟩
    rwa [div_eq_mul_inv, ← zpow_natCast, ← zpow_neg, Int.toNat_of_nonneg (by omega), neg_neg, ← value] at digits
  · next up =>
    have digits := digitsOf_zeros d.negative (show 0 < d.coefficient by omega) d.exponent.toNat
    rw [← zpow_natCast, Int.toNat_of_nonneg (by omega), ← value] at digits
    refine ⟨d.negative, _, [], ?_, digits⟩
    rw [written, pointAnd, if_pos rfl, List.append_nil, List.append_assoc]

theorem isPlain_zero : IsPlain ['0'] 0 := by
  refine ⟨false, ['0'], [], rfl, by simp, ?_, fun _ => rfl, by simp, by simp, ?_⟩
  · intro c hc
    rw [List.mem_singleton.1 hc]
    decide
  · have none : digitsValue (['0'] ++ []) = 0 := rfl
    rw [none]
    simp

/-! ## Rounding and writing -/

/-- The zeros at the end of a number are taken off, and no other digit. -/
theorem withoutZeros_spec (n : ℕ) : (withoutZeros n).1 * 10 ^ (withoutZeros n).2 = n ∧
    (n ≠ 0 → (withoutZeros n).1 % 10 ≠ 0) := by
  fun_induction withoutZeros n with
  | case1 n h rest count hw ih =>
    rw [hw] at ih
    dsimp only at ih ⊢
    refine ⟨?_, fun _ => ih.2 (by omega)⟩
    rw [pow_succ, ← mul_assoc, ih.1]
    omega
  | case2 n h =>
    refine ⟨by simp, fun nonzero zero => ?_⟩
    exact h ⟨nonzero, zero⟩

theorem value_withoutZeros (r : Decimal) : (⟨r.negative, (withoutZeros r.coefficient).1,
    r.exponent + (withoutZeros r.coefficient).2⟩ : Decimal).value = r.value := by
  have whole := (withoutZeros_spec r.coefficient).1
  have signs : (if r.negative then -((withoutZeros r.coefficient).1 : ℤ) else (withoutZeros r.coefficient).1) *
      10 ^ (withoutZeros r.coefficient).2 = r.signed := by
    rw [signed]
    split
    · rw [neg_mul, neg_inj]
      exact_mod_cast whole
    · exact_mod_cast whole
  rw [value, value, ← signs, signed]
  dsimp only
  rw [zpow_add₀ (by norm_num), zpow_natCast]
  push_cast
  ring

theorem shortPlain?_eq_some {text : Text} (h : shortPlain? p d = some text) :
    ∃ r, round? p d = some r ∧ IsPlain text r.value := by
  unfold shortPlain? reduce? at h
  rw [Option.map_map, Option.map_eq_some_iff] at h
  obtain ⟨r, hr, rfl⟩ := h
  refine ⟨r, hr, ?_⟩
  dsimp only [Function.comp_apply]
  by_cases zero : r.isZero = true
  · have none : ({ r with exponent := 0 } : Decimal).isZero = true := zero
    rw [if_pos zero, if_pos none, value_eq_zero_iff.2 zero]
    exact isPlain_zero
  · have ends := (withoutZeros_spec r.coefficient).2 fun none => zero (isZero_iff.2 none)
    have some : ¬(⟨r.negative, (withoutZeros r.coefficient).1,
        r.exponent + (withoutZeros r.coefficient).2⟩ : Decimal).isZero = true := by
      rw [isZero_iff]
      dsimp only
      omega
    rw [if_neg zero, if_neg some, ← value_withoutZeros]
    exact isPlain_plain ends

/-- A decimal is written as the number that it is rounded to, unless that is beyond the range. -/
theorem shortPlain?_cases (proper : p.Proper) (rounds : Rounds p d.value x) :
    (|x| < 10 ^ (p.maxExponent + 1) ∧ ∃ text, shortPlain? p d = some text ∧ IsPlain text x) ∨
      (10 ^ (p.maxExponent + 1) ≤ |x| ∧ shortPlain? p d = none) := by
  cases h : shortPlain? p d with
  | some text =>
    obtain ⟨r, hr, shows⟩ := shortPlain?_eq_some h
    have same := rounds.unique (round?_rounds proper hr)
    rw [same]
    exact .inl ⟨(round?_fits proper hr).abs_value_lt, text, rfl, shows⟩
  | none =>
    refine .inr ⟨le_of_round?_eq_none proper ?_ rounds, rfl⟩
    have missing := shortPlain?_isSome p d
    rw [h] at missing
    exact Option.isNone_iff_eq_none.1 (by rw [← Option.not_isSome, ← missing]; rfl)

/-- What keeps its digits is written as it is. -/
theorem exists_shortPlain? (proper : p.Proper) (keeps : Keeps p d.value)
    (inRange : |d.value| < 10 ^ (p.maxExponent + 1)) :
    ∃ text, shortPlain? p d = some text ∧ IsPlain text d.value := by
  obtain ⟨r, hr, same⟩ := exists_round?_of_keeps proper keeps inRange
  have rounds := round?_rounds proper hr
  rw [same] at rounds
  rcases shortPlain?_cases proper rounds with ⟨-, written⟩ | ⟨beyond, -⟩
  · exact written
  · exact absurd inRange (not_lt.2 beyond)

/-- How a decimal is written depends on the number that it stands for. -/
theorem shortPlain?_congr (proper : p.Proper) {a b : Decimal} (same : a.value = b.value) :
    shortPlain? p a = shortPlain? p b := by
  obtain ⟨x, rounds⟩ := exists_rounds p a
  rcases shortPlain?_cases proper rounds with ⟨small, text, ha, shows⟩ | ⟨large, ha⟩
  · rcases shortPlain?_cases proper (same ▸ rounds) with ⟨-, text', hb, shows'⟩ | ⟨large, -⟩
    · rw [ha, hb, shows.unique shows']
    · exact absurd small (not_lt.2 large)
  · rcases shortPlain?_cases proper (same ▸ rounds) with ⟨small, -⟩ | ⟨-, hb⟩
    · exact absurd small (not_lt.2 large)
    · rw [ha, hb]

end FixedExtract.Decimal
