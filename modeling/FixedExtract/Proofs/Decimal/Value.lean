import FixedExtract.Proofs.Decimal.Rounding
import Mathlib.Algebra.Order.Field.Power
import Mathlib.Data.Rat.Cast.Order
import Mathlib.Order.Bounds.Basic
import Mathlib.Tactic.FieldSimp
import Mathlib.Tactic.Linarith
import Mathlib.Tactic.Positivity
/-!
# The number that a decimal stands for

Several decimals stand for the same number, and comparison is that of the numbers, though it looks at the leading digits
first. The exponent of the leading digit says between which powers of ten the number is.
-/

namespace FixedExtract.Decimal

/-- The number that a decimal stands for. -/
def value (d : Decimal) : ℚ := d.signed * 10 ^ d.exponent

/-! ## Powers of ten -/

theorem ten_zpow_pos (e : ℤ) : (0 : ℚ) < 10 ^ e := zpow_pos (by norm_num) e

theorem ten_zpow_le {e f : ℤ} (h : e ≤ f) : (10 : ℚ) ^ e ≤ 10 ^ f := zpow_le_zpow_right₀ (by norm_num) h

theorem ten_zpow_lt {e f : ℤ} (h : e < f) : (10 : ℚ) ^ e < 10 ^ f := zpow_lt_zpow_right₀ (by norm_num) h

/-- Between one power of ten and a number below another, the second exponent is above the first. -/
theorem lt_of_ten_zpow {e f : ℤ} {x : ℚ} (low : 10 ^ e ≤ x) (high : x < 10 ^ f) : e < f := by
  by_contra h
  exact absurd (low.trans_lt high) (not_lt.2 (ten_zpow_le (not_lt.1 h)))

/-- A larger power of ten is a whole multiple of a smaller one. -/
theorem ten_pow_toNat_mul {e f : ℤ} (h : e ≤ f) : (10 : ℚ) ^ (f - e).toNat * 10 ^ e = 10 ^ f := by
  rw [← zpow_natCast, ← zpow_add₀ (by norm_num), Int.toNat_of_nonneg (by omega)]
  congr 1
  omega

/-! ## The size of a decimal -/

variable {d a b : Decimal}

theorem abs_signed (d : Decimal) : |(d.signed : ℚ)| = d.coefficient := by
  unfold signed
  cases d.negative <;> simp

theorem abs_value (d : Decimal) : |d.value| = d.coefficient * 10 ^ d.exponent := by
  rw [value, abs_mul, abs_signed, abs_of_pos (ten_zpow_pos _)]

theorem isZero_iff : d.isZero = true ↔ d.coefficient = 0 := beq_iff_eq

theorem value_eq_zero_iff : d.value = 0 ↔ d.isZero = true := by
  rw [← abs_eq_zero, abs_value, mul_eq_zero, or_iff_left (ten_zpow_pos _).ne', Nat.cast_eq_zero, isZero_iff]

theorem pow_le_of_ne_zero {n : ℕ} (h : n ≠ 0) : 10 ^ (digitCount n - 1) ≤ n := by
  rcases Nat.eq_zero_or_pos (digitCount n - 1) with single | several
  · rw [single]
    omega
  · by_contra small
    have := (digitCount_le_iff several).2 (not_le.1 small)
    omega

/-- The number is at least the power of ten of its leading digit. -/
theorem ten_zpow_adjusted_le (h : d.isZero = false) : (10 : ℚ) ^ d.adjusted ≤ |d.value| := by
  have nonzero : d.coefficient ≠ 0 := fun zero => by
    rw [isZero_iff.2 zero] at h
    cases h
  have count := digitCount_pos d.coefficient
  have low : ((10 ^ (digitCount d.coefficient - 1) : ℕ) : ℚ) ≤ d.coefficient :=
    Nat.cast_le.2 (pow_le_of_ne_zero nonzero)
  have split : (10 : ℚ) ^ d.adjusted = (10 ^ (digitCount d.coefficient - 1) : ℕ) * 10 ^ d.exponent := by
    rw [Nat.cast_pow, Nat.cast_ofNat, ← zpow_natCast, ← zpow_add₀ (by norm_num), adjusted]
    congr 1
    omega
  rw [split, abs_value]
  exact mul_le_mul_of_nonneg_right low (ten_zpow_pos _).le

/-- The number is below the next power of ten. -/
theorem abs_value_lt (d : Decimal) : |d.value| < 10 ^ (d.adjusted + 1) := by
  have high : (d.coefficient : ℚ) < (10 ^ digitCount d.coefficient : ℕ) := Nat.cast_lt.2 (lt_pow_digitCount _)
  have split : (10 : ℚ) ^ (d.adjusted + 1) = (10 ^ digitCount d.coefficient : ℕ) * 10 ^ d.exponent := by
    rw [Nat.cast_pow, Nat.cast_ofNat, ← zpow_natCast, ← zpow_add₀ (by norm_num), adjusted]
    congr 1
    omega
  rw [split, abs_value]
  exact mul_lt_mul_of_pos_right high (ten_zpow_pos _)

/-- Written with a smaller exponent, a decimal is the same number. -/
theorem scaledTo_mul {e : ℤ} (h : e ≤ d.exponent) : (d.scaledTo e : ℚ) * 10 ^ e = d.value := by
  rw [scaledTo, value, ← ten_pow_toNat_mul h]
  push_cast [Nat.pow_eq]
  ring

/-! ## Comparison -/

/-- Sizes are compared by the leading digits, and only where these stand in one place by all digits. -/
theorem compareSize_eq (ha : a.isZero = false) (hb : b.isZero = false) :
    compareSize a b = compare |a.value| |b.value| := by
  have apart : ∀ {a b : Decimal}, b.isZero = false → a.adjusted < b.adjusted → |a.value| < |b.value| := by
    intro a b hb less
    calc |a.value| < 10 ^ (a.adjusted + 1) := abs_value_lt a
      _ ≤ 10 ^ b.adjusted := ten_zpow_le (by omega)
      _ ≤ |b.value| := ten_zpow_adjusted_le hb
  unfold compareSize
  rcases lt_trichotomy a.adjusted b.adjusted with less | same | more
  · rw [compare_lt_iff_lt.2 less, compare_lt_iff_lt.2 (apart hb less)]
  · have scaled : ∀ d : Decimal, min a.exponent b.exponent ≤ d.exponent →
        |d.value| = (d.coefficient * Nat.pow 10 (d.exponent - min a.exponent b.exponent).toNat : ℕ) *
          10 ^ min a.exponent b.exponent := by
      intro d below
      rw [abs_value, ← ten_pow_toNat_mul below]
      push_cast [Nat.pow_eq]
      ring
    rw [compare_eq_iff_eq.2 same, scaled a (min_le_left _ _), scaled b (min_le_right _ _)]
    dsimp only
    -- Both are whole multiples of the smaller power of ten, which does not change how they compare.
    have positive := ten_zpow_pos (min a.exponent b.exponent)
    rcases lt_trichotomy (a.coefficient * Nat.pow 10 (a.exponent - min a.exponent b.exponent).toNat)
        (b.coefficient * Nat.pow 10 (b.exponent - min a.exponent b.exponent).toNat) with less | same | more
    · rw [compare_lt_iff_lt.2 less, compare_lt_iff_lt.2 (mul_lt_mul_of_pos_right (Nat.cast_lt.2 less) positive)]
    · rw [same, compare_eq_iff_eq.2 rfl, compare_eq_iff_eq.2 rfl]
    · rw [compare_gt_iff_gt.2 more, compare_gt_iff_gt.2 (mul_lt_mul_of_pos_right (Nat.cast_lt.2 more) positive)]
  · rw [compare_gt_iff_gt.2 more, compare_gt_iff_gt.2 (apart ha more)]

theorem value_of_negative (h : d.negative = true) : d.value = -|d.value| := by
  rw [abs_value, value, signed, h]
  simp

theorem value_of_not_negative (h : d.negative = false) : d.value = |d.value| := by
  rw [abs_value, value, signed, h]
  simp

theorem abs_value_pos (h : d.isZero = false) : 0 < |d.value| :=
  (ten_zpow_pos _).trans_le (ten_zpow_adjusted_le h)

theorem compare_neg (x y : ℚ) : compare (-x) (-y) = compare y x := by
  rcases lt_trichotomy x y with less | rfl | more
  · rw [compare_gt_iff_gt.2 (neg_lt_neg less), compare_gt_iff_gt.2 less]
  · rw [compare_eq_iff_eq.2 rfl, compare_eq_iff_eq.2 rfl]
  · rw [compare_lt_iff_lt.2 (neg_lt_neg more), compare_lt_iff_lt.2 more]

/-- Decimals compare as the numbers that they stand for. -/
theorem compareValue_eq (a b : Decimal) : compareValue a b = compare a.value b.value := by
  unfold compareValue
  -- Zero stands between the negative numbers and the others, whatever its sign and exponent.
  cases za : a.isZero with
  | true =>
    rw [value_eq_zero_iff.2 za]
    cases zb : b.isZero with
    | true =>
      rw [value_eq_zero_iff.2 zb]
      rfl
    | false =>
      have positive := abs_value_pos zb
      cases sign : b.negative with
      | true =>
        rw [value_of_negative sign]
        exact (compare_gt_iff_gt.2 (by linarith)).symm
      | false =>
        rw [value_of_not_negative sign]
        exact (compare_lt_iff_lt.2 positive).symm
  | false =>
    have positive := abs_value_pos za
    cases zb : b.isZero with
    | true =>
      rw [value_eq_zero_iff.2 zb]
      cases sign : a.negative with
      | true =>
        rw [value_of_negative sign]
        exact (compare_lt_iff_lt.2 (by linarith)).symm
      | false =>
        rw [value_of_not_negative sign]
        exact (compare_gt_iff_gt.2 positive).symm
    | false =>
      -- Of two numbers with one sign the sizes decide, the other way round below zero.
      have positive' := abs_value_pos zb
      cases sa : a.negative with
      | true =>
        cases sb : b.negative with
        | true =>
          show compareSize b a = _
          rw [value_of_negative sa, value_of_negative sb, compareSize_eq zb za, compare_neg]
        | false =>
          rw [value_of_negative sa, value_of_not_negative sb]
          exact (compare_lt_iff_lt.2 (by linarith)).symm
      | false =>
        cases sb : b.negative with
        | true =>
          rw [value_of_not_negative sa, value_of_negative sb]
          exact (compare_gt_iff_gt.2 (by linarith)).symm
        | false =>
          show compareSize a b = _
          rw [value_of_not_negative sa, value_of_not_negative sb, compareSize_eq za zb]

theorem lt_iff : lt a b = true ↔ a.value < b.value := by
  rw [lt, beq_iff_eq, compareValue_eq, compare_lt_iff_lt]

/-! ## The least and the greatest -/

/-- A run that keeps the better of two ends with the best. -/
theorem foldl_better {better : Decimal → Decimal → Bool} {f : Decimal → ℚ}
    (hb : ∀ best d, better best d = true ↔ f d < f best) (rest : List Decimal) (first : Decimal) :
    rest.foldl (fun best d => if better best d then d else best) first ∈ first :: rest ∧
      ∀ d ∈ first :: rest, f (rest.foldl (fun best d => if better best d then d else best) first) ≤ f d := by
  induction rest generalizing first with
  | nil => simp
  | cons next rest ih =>
    obtain ⟨member, least⟩ := ih (if better first next then next else first)
    -- The end is no worse than what is kept of the first two, and that is no worse than either of them.
    have kept := least _ List.mem_cons_self
    rw [List.foldl_cons]
    cases h : better first next with
    | true =>
      rw [h, if_pos rfl] at member least kept
      have below := (hb first next).1 h
      refine ⟨List.mem_cons_of_mem first member, ?_⟩
      intro d hd
      rcases List.mem_cons.1 hd with rfl | hd
      · exact kept.trans below.le
      · exact least d hd
    | false =>
      rw [h, if_neg Bool.false_ne_true] at member least kept
      have above : f first ≤ f next := by
        rw [← not_lt, ← hb, h]
        exact Bool.false_ne_true
      refine ⟨?_, ?_⟩
      · rcases List.mem_cons.1 member with same | later
        · rw [if_neg Bool.false_ne_true, same]
          exact List.mem_cons_self
        · exact List.mem_cons_of_mem first (List.mem_cons_of_mem next later)
      · intro d hd
        rcases List.mem_cons.1 hd with rfl | hd
        · exact kept
        · rcases List.mem_cons.1 hd with rfl | hd
          · exact kept.trans above
          · exact least d (List.mem_cons_of_mem first hd)

theorem isLeast_minimum (first : Decimal) (rest : List Decimal) :
    IsLeast {x | ∃ d ∈ first :: rest, d.value = x} (minimum first rest).value := by
  have smaller : ∀ least d : Decimal, lt d least = true ↔ d.value < least.value := fun _ _ => lt_iff
  obtain ⟨member, least⟩ := foldl_better smaller rest first
  refine ⟨⟨minimum first rest, member, rfl⟩, ?_⟩
  rintro _ ⟨d, hd, rfl⟩
  exact least d hd

theorem isGreatest_maximum (first : Decimal) (rest : List Decimal) :
    IsGreatest {x | ∃ d ∈ first :: rest, d.value = x} (maximum first rest).value := by
  have larger : ∀ greatest d : Decimal, lt greatest d = true ↔ -d.value < -greatest.value := by
    intro greatest d
    rw [lt_iff, neg_lt_neg_iff]
  obtain ⟨member, greatest⟩ := foldl_better larger rest first
  refine ⟨⟨maximum first rest, member, rfl⟩, ?_⟩
  rintro _ ⟨d, hd, rfl⟩
  exact neg_le_neg_iff.1 (greatest d hd)

end FixedExtract.Decimal
