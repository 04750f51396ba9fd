import FixedExtract.Proofs.Decimal.Value
import Mathlib.Algebra.Order.Floor.Ring
import Mathlib.Data.Rat.Floor
/-!
# Rounding as it is specified

A number is rounded to a multiple of the place of the last digit that is kept, to the nearest one and of two that are
equally near to the even one. The place is that of the last significant digit, unless it would be below the smallest
place there is. Every number is rounded in one way, and one that has no more digits than are kept is not changed.
-/

namespace FixedExtract.Decimal

/-! ## The nearest integer -/

/-- The integer is the nearest one, and the even one where two are equally near. -/
structure NearestEven (x : ℚ) (n : ℤ) : Prop where
  near : |x - n| ≤ 1 / 2
  even : |x - n| = 1 / 2 → Even n

namespace NearestEven

variable {x : ℚ} {n m : ℤ}

theorem unique (h : NearestEven x n) (h' : NearestEven x m) : n = m := by
  have near := abs_le.1 h.near
  have near' := abs_le.1 h'.near
  have below : n ≤ m + 1 := by
    have : (n : ℚ) ≤ m + 1 := by linarith
    exact_mod_cast this
  have above : m ≤ n + 1 := by
    have : (m : ℚ) ≤ n + 1 := by linarith
    exact_mod_cast this
  -- Neighbours would both be half a unit away, and so both even.
  have apart : ∀ {n m : ℤ}, NearestEven x n → NearestEven x m → m ≠ n + 1 := by
    rintro n m h h' rfl
    have near := abs_le.1 h.near
    have near' := abs_le.1 h'.near
    push_cast at near'
    have left : x - n = 1 / 2 := by linarith
    have right : x - (n + 1 : ℤ) = -(1 / 2) := by
      push_cast
      linarith
    have even := h.even (by rw [left, abs_of_pos (by norm_num)])
    have even' := h'.even (by rw [right, abs_neg, abs_of_pos (by norm_num)])
    exact Int.not_even_iff_odd.2 even.add_one even'
  have := apart h h'
  have := apart h' h
  omega

theorem neg (h : NearestEven x n) : NearestEven (-x) (-n) := by
  have same : |-x - ((-n : ℤ) : ℚ)| = |x - n| := by
    rw [← abs_neg]
    push_cast
    congr 1
    ring
  exact ⟨same ▸ h.near, fun half => (h.even (same ▸ half)).neg⟩

theorem of_lt (h : |x - n| < 1 / 2) : NearestEven x n := ⟨h.le, fun half => absurd half h.ne⟩

theorem intCast (n : ℤ) : NearestEven n n := of_lt (by simp)

/-- Rounding does not go beyond an integer. -/
theorem natCast_le_abs (h : NearestEven x n) {k : ℕ} (hk : (k : ℚ) ≤ |x|) : (k : ℤ) ≤ |n| := by
  have near := h.near
  have triangle := abs_sub_abs_le_abs_sub x (n : ℚ)
  have : (k : ℚ) < |(n : ℚ)| + 1 := by linarith
  have : (k : ℤ) < |n| + 1 := by exact_mod_cast this
  omega

theorem abs_le_natCast (h : NearestEven x n) {k : ℕ} (hk : |x| ≤ k) : |n| ≤ k := by
  have near := h.near
  have triangle := abs_sub_abs_le_abs_sub (n : ℚ) x
  rw [abs_sub_comm] at triangle
  have : |(n : ℚ)| < k + 1 := by linarith
  have : |n| < (k : ℤ) + 1 := by exact_mod_cast this
  omega

end NearestEven

/-- Twice the remainder is compared with the divisor. -/
theorem nearestEven_div {n k : ℤ} {d : ℕ} (hd : 0 < d) (near : |2 * (n - d * k)| ≤ d)
    (even : |2 * (n - d * k)| = d → Even k) : NearestEven (n / d) k := by
  have positive : (0 : ℚ) < d := Nat.cast_pos.2 hd
  have distance : |(n : ℚ) / d - k| = (|2 * (n - d * k)| : ℤ) / (2 * d) := by
    have split : (n : ℚ) / d - k = (2 * (n - d * k)) / (2 * d) := by
      field_simp
    rw [split, abs_div, abs_of_pos (show (0 : ℚ) < 2 * d by positivity)]
    push_cast
    rfl
  have doubled : (0 : ℚ) < 2 * d := by positivity
  constructor
  · rw [distance, div_le_iff₀ doubled]
    have : ((|2 * (n - d * k)| : ℤ) : ℚ) ≤ d := by exact_mod_cast near
    linarith
  · intro half
    rw [distance, div_eq_iff doubled.ne'] at half
    refine even ?_
    have : ((|2 * (n - d * k)| : ℤ) : ℚ) = d := by linarith
    exact_mod_cast this

theorem nearestEven_divHalfEven (n : ℕ) {d : ℕ} (hd : 0 < d) : NearestEven ((n : ℤ) / d) (divHalfEven n d) := by
  have whole : (n : ℤ) = d * (n / d : ℕ) + (n % d : ℕ) := by exact_mod_cast (Nat.div_add_mod n d).symm
  have remainder : n % d < d := Nat.mod_lt n hd
  unfold divHalfEven
  dsimp only
  split
  · next up =>
    -- The next number is as far away as the remainder falls short of the divisor.
    have distance : 2 * ((n : ℤ) - d * ((n / d + 1 : ℕ) : ℤ)) = 2 * (n % d : ℕ) - 2 * d := by
      rw [whole]
      push_cast
      ring
    refine nearestEven_div hd ?_ ?_
    · rw [distance, abs_le]
      omega
    · rw [distance]
      intro half
      rw [Int.even_iff]
      rcases abs_eq (Int.natCast_nonneg d) |>.1 half with h | h <;> omega
  · next down =>
    have distance : 2 * ((n : ℤ) - d * ((n / d : ℕ) : ℤ)) = 2 * (n % d : ℕ) := by
      rw [whole]
      push_cast
      ring
    refine nearestEven_div hd ?_ ?_
    · rw [distance, abs_le]
      omega
    · rw [distance]
      intro half
      rw [Int.even_iff]
      rcases abs_eq (Int.natCast_nonneg d) |>.1 half with h | h <;> omega

/-- Every number has a nearest integer. -/
theorem exists_nearestEven (x : ℚ) : ∃ n, NearestEven x n := by
  have size : |x| = (x.num.natAbs : ℤ) / (x.den : ℚ) := by
    rw [← Rat.num_div_den |x|, Rat.num_abs_eq_abs_num, Rat.den_abs_eq_den]
    push_cast
    rfl
  have nearest := nearestEven_divHalfEven x.num.natAbs x.den_pos
  rw [← size] at nearest
  rcases abs_choice x with same | opposite
  · exact ⟨_, same ▸ nearest⟩
  · have negated := nearest.neg
    rw [opposite, neg_neg] at negated
    exact ⟨_, negated⟩

/-! ## Rounding to the digits that are kept -/

variable {p : Precision} {x r : ℚ} {e n : ℤ}

/-- The number is rounded to a multiple of the place of the last digit that is kept. That is its last significant
digit of so many, unless it would have no place: then it is the last place there is. -/
structure RoundsAt (p : Precision) (x : ℚ) (e n : ℤ) : Prop where
  below : |x| < 10 ^ (e + p.digits)
  place : e = p.tiny ∨ p.tiny < e ∧ 10 ^ (e + p.digits - 1) ≤ |x|
  nearest : NearestEven (x / 10 ^ e) n

/-- The number is rounded, a half going to the even neighbour. -/
def Rounds (p : Precision) (x r : ℚ) : Prop := ∃ e n, RoundsAt p x e n ∧ r = n * 10 ^ e

/-- The number has no more digits than are kept, with the last one where there is a place for it. -/
def Keeps (p : Precision) (x : ℚ) : Prop := ∃ e n : ℤ, x = n * 10 ^ e ∧ |n| < 10 ^ p.digits ∧ p.tiny ≤ e

namespace RoundsAt

theorem place_le (h : RoundsAt p x e n) : p.tiny ≤ e := by
  rcases h.place with same | ⟨above, -⟩ <;> omega

/-- The place is determined by the number, and so is the multiple of it. -/
theorem unique (h : RoundsAt p x e n) {e' n' : ℤ} (h' : RoundsAt p x e' n') : e = e' ∧ n = n' := by
  -- A larger place than one at which the number is rounded would be too large for its digits.
  have apart : ∀ {e n e' n' : ℤ}, RoundsAt p x e n → RoundsAt p x e' n' → e' ≤ e := by
    intro e n e' n' h h'
    have := h.place_le
    rcases h'.place with same | ⟨-, low⟩
    · omega
    · have := lt_of_ten_zpow low h.below
      omega
  obtain rfl : e = e' := le_antisymm (apart h' h) (apart h h')
  exact ⟨rfl, h.nearest.unique h'.nearest⟩

theorem neg (h : RoundsAt p x e n) : RoundsAt p (-x) e (-n) := by
  refine ⟨by rw [abs_neg]; exact h.below, by rw [abs_neg]; exact h.place, ?_⟩
  rw [neg_div]
  exact h.nearest.neg

/-- The size of the number in units of the place. -/
theorem abs_div_place (x : ℚ) (e : ℤ) : |x / 10 ^ e| = |x| / 10 ^ e := by
  rw [abs_div, abs_of_pos (ten_zpow_pos e)]

theorem abs_multiple (n e : ℤ) : |(n : ℚ) * 10 ^ e| = (|n| : ℤ) * 10 ^ e := by
  rw [abs_mul, abs_of_pos (ten_zpow_pos e), Int.cast_abs]

/-- A power of ten that is a multiple of the place is not passed by rounding down. -/
theorem ten_zpow_le_abs (h : RoundsAt p x e n) {a : ℤ} (above : e ≤ a) (low : 10 ^ a ≤ |x|) :
    10 ^ a ≤ |(n : ℚ) * 10 ^ e| := by
  have units : ((10 ^ (a - e).toNat : ℕ) : ℚ) ≤ |x / 10 ^ e| := by
    rw [abs_div_place, le_div_iff₀ (ten_zpow_pos e)]
    push_cast
    rwa [ten_pow_toNat_mul above]
  have whole : ((10 ^ (a - e).toNat : ℕ) : ℤ) ≤ |n| := h.nearest.natCast_le_abs units
  rw [abs_multiple, ← ten_pow_toNat_mul above]
  refine mul_le_mul_of_nonneg_right ?_ (ten_zpow_pos e).le
  exact_mod_cast whole

/-- Rounding up leads to the next power of ten at most. -/
theorem abs_le_ten_pow (h : RoundsAt p x e n) : |n| ≤ 10 ^ p.digits := by
  have units : |x / 10 ^ e| ≤ (10 ^ p.digits : ℕ) := by
    rw [abs_div_place, div_le_iff₀ (ten_zpow_pos e)]
    push_cast
    rw [← zpow_natCast, ← zpow_add₀ (by norm_num), add_comm]
    exact h.below.le
  exact_mod_cast h.nearest.abs_le_natCast units

/-- A number that keeps its digits is a multiple of the place. -/
theorem eq_of_keeps (h : RoundsAt p x e n) (keeps : Keeps p x) : x = n * 10 ^ e := by
  obtain ⟨f, m, hx, small, least⟩ := keeps
  have below : |x| < 10 ^ (f + p.digits) := by
    rw [hx, abs_multiple, zpow_add₀ (by norm_num), mul_comm, zpow_natCast]
    refine mul_lt_mul_of_pos_left ?_ (ten_zpow_pos f)
    exact_mod_cast small
  -- The last digit of the number stands at the place or in front of it.
  have above : e ≤ f := by
    rcases h.place with same | ⟨-, low⟩
    · omega
    · have := lt_of_ten_zpow low below
      omega
  have whole : x = (m * 10 ^ (f - e).toNat : ℤ) * 10 ^ e := by
    rw [hx, ← ten_pow_toNat_mul above]
    push_cast
    ring
  have units : x / 10 ^ e = (m * 10 ^ (f - e).toNat : ℤ) := by
    rw [whole, mul_div_cancel_right₀ _ (ten_zpow_pos e).ne']
  have nearest := h.nearest
  rw [units] at nearest
  rw [whole, nearest.unique (NearestEven.intCast _)]

end RoundsAt

theorem Rounds.unique (h : Rounds p x r) {s : ℚ} (h' : Rounds p x s) : r = s := by
  obtain ⟨e, n, hr, rfl⟩ := h
  obtain ⟨f, m, hs, rfl⟩ := h'
  obtain ⟨rfl, rfl⟩ := hr.unique hs
  rfl

/-- What has been rounded has no more digits than are kept. -/
theorem Rounds.keeps (positive : 0 < p.digits) (h : Rounds p x r) : Keeps p r := by
  obtain ⟨e, n, h, rfl⟩ := h
  have least := h.place_le
  rcases lt_or_eq_of_le h.abs_le_ten_pow with small | carried
  · exact ⟨e, n, rfl, small, least⟩
  · -- Rounding up has led to a power of ten, which has one digit.
    have one : |(1 : ℤ)| < 10 ^ p.digits := by
      rw [abs_one]
      exact one_lt_pow₀ (by norm_num) positive.ne'
    have power : ((10 ^ p.digits : ℤ) : ℚ) * 10 ^ e = 10 ^ (e + p.digits) := by
      rw [zpow_add₀ (by norm_num), zpow_natCast, mul_comm]
      push_cast
      rfl
    rcases (abs_eq (by positivity)).1 carried with rfl | rfl
    · exact ⟨e + p.digits, 1, by rw [power, Int.cast_one, one_mul], one, by omega⟩
    · exact ⟨e + p.digits, -1, by rw [Int.cast_neg, neg_mul, power]; simp, by rwa [abs_neg], by omega⟩

/-- Rounding changes nothing exactly when the number keeps its digits. -/
theorem Rounds.eq_iff (positive : 0 < p.digits) (h : Rounds p x r) : r = x ↔ Keeps p x := by
  constructor
  · rintro rfl
    exact h.keeps positive
  · intro keeps
    obtain ⟨e, n, h, rfl⟩ := h
    exact (h.eq_of_keeps keeps).symm

/-- The number is rounded to so many significant digits, a half going to the even neighbour. -/
def RoundsToDigits (digits : ℕ) (x r : ℚ) : Prop :=
  x = 0 ∧ r = 0 ∨ ∃ e n : ℤ, 10 ^ (e + digits - 1) ≤ |x| ∧ |x| < 10 ^ (e + digits) ∧
    NearestEven (x / 10 ^ e) n ∧ r = n * 10 ^ e

/-- A number that is not below the range is rounded to as many significant digits as are kept. -/
theorem Rounds.toDigits (h : Rounds p x r) (normal : x ≠ 0 → 10 ^ p.minExponent ≤ |x|) :
    RoundsToDigits p.digits x r := by
  obtain ⟨e, n, at_e, rfl⟩ := h
  by_cases zero : x = 0
  · have nearest := at_e.nearest
    rw [zero, zero_div] at nearest
    have none : NearestEven 0 0 := by exact_mod_cast NearestEven.intCast 0
    rw [nearest.unique none]
    exact .inl ⟨zero, by simp⟩
  · refine .inr ⟨e, n, ?_, at_e.below, at_e.nearest, rfl⟩
    rcases at_e.place with least | ⟨-, low⟩
    · refine (ten_zpow_le ?_).trans (normal zero)
      rw [least, Precision.tiny]
      omega
    · exact low

end FixedExtract.Decimal
