import FixedExtract.Proofs.Decimal.Correct
import Mathlib.Algebra.BigOperators.Group.List.Basic
/-!
# Sums that lose no digit

Every running sum is rounded, and a summand that is far below the other is replaced by a stand-in. Neither happens while
the summands are multiples of one place, and few enough units of it in all: then a running sum keeps its digits, and a
summand other than zero is never far enough below.
-/

namespace FixedExtract.Decimal

variable {p : Precision} {a b d : Decimal} {u k l : ℤ}

/-! ## One addition -/

theorem value_addExact (a b : Decimal) : (addExact a b).value = a.value + b.value := by
  have signed : (addExact a b).signed =
      a.scaledTo (min a.exponent b.exponent) + b.scaledTo (min a.exponent b.exponent) := by
    unfold addExact Decimal.signed
    dsimp only
    split
    · next zero =>
      rw [zero]
      split <;> rfl
    · by_cases below : a.scaledTo (min a.exponent b.exponent) + b.scaledTo (min a.exponent b.exponent) < 0
      · rw [if_pos (decide_eq_true below)]
        omega
      · rw [if_neg (by simpa using below)]
        omega
  have exponent : (addExact a b).exponent = min a.exponent b.exponent := rfl
  rw [value, signed, exponent, Int.cast_add, add_mul, scaledTo_mul (min_le_left _ _), scaledTo_mul (min_le_right _ _)]

/-- The decimal is so many units of a place. -/
def Units (u k : ℤ) (d : Decimal) : Prop := d.value = k * 10 ^ u

/-- Units of a place within the range, of which there are fewer than the digits that are kept can count. -/
structure Precision.Place (p : Precision) (u : ℤ) : Prop where
  least : p.tiny ≤ u
  inRange : u + p.digits ≤ p.maxExponent + 1

theorem Units.abs_lt (h : Units u k d) (few : |k| < 10 ^ p.digits) : |d.value| < 10 ^ (u + p.digits) := by
  rw [h, RoundsAt.abs_multiple, zpow_add₀ (by norm_num), mul_comm, zpow_natCast]
  refine mul_lt_mul_of_pos_left ?_ (ten_zpow_pos u)
  exact_mod_cast few

/-- What is not zero is at least one unit. -/
theorem Units.unit_le (h : Units u k d) (nonzero : d.value ≠ 0) : 10 ^ u ≤ |d.value| := by
  have some : 0 < |k| := by
    rw [abs_pos]
    rintro rfl
    exact nonzero (by rw [h]; simp)
  have one : (1 : ℚ) ≤ (|k| : ℤ) := by exact_mod_cast some
  have := mul_le_mul_of_nonneg_right one (ten_zpow_pos u).le
  rwa [one_mul, ← RoundsAt.abs_multiple, ← h] at this

/-- Units of the place, few enough, are not changed by rounding. -/
theorem Units.round? (proper : p.Proper) (place : p.Place u) (h : Units u k d) (few : |k| < 10 ^ p.digits) :
    ∃ r, round? p d = some r ∧ Units u k r := by
  have inRange : |d.value| < 10 ^ (p.maxExponent + 1) := (h.abs_lt few).trans_le (ten_zpow_le place.inRange)
  obtain ⟨r, hr, same⟩ := exists_round?_of_keeps proper ⟨u, k, h, few, place.least⟩ inRange
  exact ⟨r, hr, same.trans h⟩

/-- A summand that is replaced by a stand-in is zero. -/
theorem Units.isZero_of_negligible (ha : Units u k a) (hb : Units u l b) (few : |k| < 10 ^ p.digits)
    (nonzero : a.isZero = false) (h : b.adjusted < negligibleBelow p a) : b.isZero = true := by
  by_contra some
  have leading := lt_of_ten_zpow (ten_zpow_adjusted_le nonzero) (ha.abs_lt few)
  have unit := hb.unit_le (abs_pos.1 (abs_value_pos (Bool.eq_false_iff.2 some)))
  -- So its leading digit is not below the unit, and the border is.
  have behind := lt_of_ten_zpow unit (abs_value_lt b)
  rw [adjusted] at leading
  unfold negligibleBelow at h
  dsimp only at h
  split at h <;> omega

theorem Units.addOrdered? (proper : p.Proper) (place : p.Place u) (ha : Units u k a) (hb : Units u l b)
    (few : |k| + |l| < 10 ^ p.digits) : ∃ r, addOrdered? p a b = some r ∧ Units u (k + l) r := by
  have fewer : |k| < 10 ^ p.digits := by
    have := abs_nonneg l
    omega
  have total : |k + l| < 10 ^ p.digits := (abs_add_le k l).trans_lt few
  have sum : a.value + b.value = (k + l : ℤ) * 10 ^ u := by
    rw [ha, hb, ← add_mul]
    push_cast
    rfl
  unfold Decimal.addOrdered?
  split
  · next zero =>
    -- Nothing is added to zero, and only a zero may get another sign.
    have same : ∀ negative, Units u (k + l)
        { b with negative := if b.isZero then negative else b.negative } := by
      intro negative
      rw [value_eq_zero_iff.2 zero, zero_add] at sum
      cases hz : b.isZero with
      | true =>
        rw [value_eq_zero_iff.2 hz] at sum
        rw [Units, ← sum, value_eq_zero_iff]
        exact hz
      | false => exact sum
    exact (same _).round? proper place total
  · next nonzero =>
    -- A stand-in is taken for nothing but a zero, so the sum before rounding is that of the numbers.
    have stand : (standIn p a b).value = b.value := by
      unfold standIn
      split
      · next negligible =>
        have zero := ha.isZero_of_negligible hb fewer (Bool.eq_false_iff.2 nonzero) negligible
        rw [value_eq_zero_iff.2 zero, value_eq_zero_iff, isZero_iff]
        exact if_pos zero
      · rfl
    refine Units.round? proper place ?_ total
    rw [Units, value_addExact, stand, sum]

theorem Units.add? (proper : p.Proper) (place : p.Place u) (ha : Units u k a) (hb : Units u l b)
    (few : |k| + |l| < 10 ^ p.digits) : ∃ r, add? p a b = some r ∧ Units u (k + l) r := by
  unfold Decimal.add?
  split
  · exact ha.addOrdered? proper place hb few
  · rw [add_comm] at few
    obtain ⟨r, hr, units⟩ := hb.addOrdered? proper place ha few
    exact ⟨r, hr, add_comm l k ▸ units⟩

/-! ## The running sum -/

/-- The units of the running sum and of what is still to come stay few, so nothing is ever lost. -/
theorem Units.foldlM_add? (proper : p.Proper) (place : p.Place u) {ds : List Decimal} {ks : List ℤ}
    (units : List.Forall₂ (fun d k => Units u k d) ds ks) {start : Decimal} (hs : Units u k start)
    (few : |k| + (ks.map abs).sum < 10 ^ p.digits) :
    ∃ r, ds.foldlM (Decimal.add? p) start = some r ∧ Units u (k + ks.sum) r ∧ |k + ks.sum| < 10 ^ p.digits := by
  induction units generalizing k start with
  | nil =>
    rw [List.map_nil, List.sum_nil, add_zero] at few
    rw [List.sum_nil, add_zero]
    exact ⟨start, rfl, hs, few⟩
  | @cons d j ds ks hd rest ih =>
    rw [List.map_cons, List.sum_cons] at few
    have later : 0 ≤ (ks.map abs).sum := by
      refine List.sum_nonneg fun x hx => ?_
      obtain ⟨y, -, rfl⟩ := List.mem_map.1 hx
      exact abs_nonneg y
    -- What the next running sum has in units is at most what it and its summand had.
    obtain ⟨next, hn, nextUnits⟩ := hs.add? proper place hd (by omega)
    have triangle := abs_add_le k j
    obtain ⟨r, hr, total⟩ := ih nextUnits (by omega)
    refine ⟨r, ?_, ?_⟩
    · rw [List.foldlM_cons, hn]
      exact hr
    · rw [List.sum_cons, ← add_assoc]
      exact total

/-- A sum of multiples of one place, of few units in all, is exact. -/
theorem exists_sum? (proper : p.Proper) (place : p.Place u) {ds : List Decimal} {ks : List ℤ}
    (units : List.Forall₂ (fun d k => Units u k d) ds ks) (few : (ks.map abs).sum < 10 ^ p.digits) :
    ∃ r, sum? p ds = some r ∧ Units u ks.sum r ∧ |ks.sum| < 10 ^ p.digits := by
  have zero : Units u 0 (ofNat 0) := by
    rw [Units, value_eq_zero_iff.2 (by rfl)]
    simp
  obtain ⟨r, hr, total⟩ := zero.foldlM_add? proper place units (by simpa using few)
  rw [zero_add] at total
  exact ⟨r, hr, total⟩

end FixedExtract.Decimal
