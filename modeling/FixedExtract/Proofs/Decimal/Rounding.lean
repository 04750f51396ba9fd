import FixedExtract.Decimal.Arithmetic
import Mathlib.Tactic.Ring
/-!
# Rounded decimals

A rounded decimal fits the precision it was rounded to: it has no more digits than are kept, and its
leading digit is in range. What fits is rounded again without overflow, so a result of decimal arithmetic
can always be written.
-/

namespace FixedExtract.Decimal

/-! ## Digits -/

theorem digitCount_pos (n : Nat) : 0 < digitCount n := Nat.length_toDigits_pos

theorem digitCount_le_iff {n k : Nat} (hk : 0 < k) : digitCount n ≤ k ↔ n < 10 ^ k :=
  Nat.length_toDigits_le_iff (by decide) hk

theorem lt_pow_digitCount (n : Nat) : n < 10 ^ digitCount n :=
  (digitCount_le_iff (digitCount_pos n)).1 le_rfl

/-! ## Rounding half to even -/

/-- Rounding takes the quotient or the next number. -/
theorem divHalfEven_le (n d : Nat) : divHalfEven n d ≤ n / d + 1 := by
  unfold divHalfEven
  dsimp only
  split <;> omega

/-- Of a number with `count` digits, dropping `dropped` of them leaves at most the power of ten with the
remaining digits. -/
theorem divHalfEven_le_pow {n count dropped : Nat} (hn : n < 10 ^ count) (h : dropped ≤ count) :
    divHalfEven n (10 ^ dropped) ≤ 10 ^ (count - dropped) := by
  have split : 10 ^ count = 10 ^ (count - dropped) * 10 ^ dropped := by
    rw [← Nat.pow_add, Nat.sub_add_cancel h]
  have quotient : n / 10 ^ dropped < 10 ^ (count - dropped) := by
    rw [Nat.div_lt_iff_lt_mul (Nat.pow_pos (by decide)), ← split]
    exact hn
  have := divHalfEven_le n (10 ^ dropped)
  omega

/-! ## Decimals that fit -/

/-- A precision that keeps a digit and has a range. -/
structure Precision.Proper (p : Precision) : Prop where
  digits_pos : 0 < p.digits
  range : p.minExponent ≤ p.maxExponent

theorem working_proper : working.Proper := ⟨by decide, by decide⟩

/-- The decimal has no more digits than are kept, and its leading digit is not beyond the range. Zero fits
with every exponent. -/
def Fits (p : Precision) (d : Decimal) : Prop :=
  d.isZero = true ∨ digitCount d.coefficient ≤ p.digits ∧ d.adjusted ≤ p.maxExponent

/-- What fits is rounded without overflow. -/
theorem Fits.round?_isSome {p : Precision} {d : Decimal} (h : d.Fits p) : (round? p d).isSome := by
  unfold round?
  by_cases zero : d.isZero = true
  · rw [if_pos zero]
    rfl
  · rcases h with h | ⟨digits, inRange⟩
    · exact absurd h zero
    · rw [if_neg zero, if_neg (not_lt.2 inRange)]
      split
      · rfl
      · have noExcess : digitCount d.coefficient - p.digits = 0 := by omega
        simp only [noExcess, if_true]
        rfl

/-- Rounding to an exponent drops digits, and may carry into one more. -/
theorem coefficient_roundTo_le (e : Int) (d : Decimal) :
    (roundTo e d).coefficient ≤ 10 ^ (digitCount d.coefficient - (e - d.exponent).toNat) := by
  rw [roundTo]
  dsimp only
  split
  · exact Nat.zero_le _
  · rename_i enough
    exact divHalfEven_le_pow (lt_pow_digitCount d.coefficient) (not_lt.1 enough)

theorem digitCount_roundTo_le (e : Int) (d : Decimal) :
    digitCount (roundTo e d).coefficient ≤
      digitCount d.coefficient - (e - d.exponent).toNat + 1 := by
  rw [digitCount_le_iff (Nat.succ_pos _)]
  have bound := coefficient_roundTo_le e d
  have step : 10 ^ (digitCount d.coefficient - (e - d.exponent).toNat) <
      10 ^ (digitCount d.coefficient - (e - d.exponent).toNat + 1) :=
    Nat.pow_lt_pow_right (by decide) (Nat.lt_succ_self _)
  omega

/-- A decimal below the range is left with at most as many digits as are kept. -/
theorem fits_roundTo_tiny {p : Precision} (proper : p.Proper) {d : Decimal}
    (below : d.adjusted < p.minExponent) (tiny : d.exponent < p.tiny) : (roundTo p.tiny d).Fits p := by
  have digits_pos := proper.digits_pos
  have range := proper.range
  have digits := digitCount_roundTo_le p.tiny d
  have exponent : (roundTo p.tiny d).exponent = p.tiny := rfl
  rw [adjusted] at below
  rw [Precision.tiny] at tiny digits exponent
  refine Or.inr ⟨?_, ?_⟩
  · rw [Precision.tiny]
    omega
  · rw [adjusted, Precision.tiny]
    omega

/-- When rounding carries into a digit more than is kept, that digit is a zero. -/
theorem digitCount_div_ten {n k : Nat} (hk : 0 < k) (h : n ≤ 10 ^ k) : digitCount (n / 10) ≤ k := by
  rw [digitCount_le_iff hk]
  have tenth : n / 10 ≤ n := Nat.div_le_self n 10
  have positive : 0 < 10 ^ k := Nat.pow_pos (by decide)
  omega

/-- What has been rounded fits. -/
theorem round?_fits {p : Precision} (proper : p.Proper) {d r : Decimal} (h : round? p d = some r) :
    r.Fits p := by
  unfold round? at h
  split at h
  · rename_i zero
    cases h
    exact Or.inl zero
  · split at h
    · cases h
    · rename_i inRange
      split at h
      · rename_i below
        split at h
        · rename_i tiny
          cases h
          exact fits_roundTo_tiny proper below tiny
        · rename_i tiny
          cases h
          have range := proper.range
          rw [adjusted] at below
          rw [Precision.tiny] at tiny
          refine Or.inr ⟨by omega, ?_⟩
          rw [adjusted]
          omega
      · dsimp only at h
        split at h
        · rename_i noExcess
          cases h
          exact Or.inr ⟨by omega, not_lt.1 inRange⟩
        · -- Dropping the excess leaves as many digits as are kept, or a power of ten.
          have kept : digitCount d.coefficient - ((d.exponent +
              (digitCount d.coefficient - p.digits : Nat)) - d.exponent).toNat ≤ p.digits := by
            omega
          have bound := coefficient_roundTo_le
            (d.exponent + (digitCount d.coefficient - p.digits : Nat)) d
          have power := Nat.pow_le_pow_right (show 0 < 10 by decide) kept
          split at h
          · split at h
            · cases h
            · rename_i inRange
              cases h
              exact Or.inr ⟨digitCount_div_ten proper.digits_pos (bound.trans power),
                not_lt.1 inRange⟩
          · rename_i digits
            split at h
            · cases h
            · rename_i inRange
              cases h
              exact Or.inr ⟨not_lt.1 digits, not_lt.1 inRange⟩

/-! ## Results -/

theorem add?_fits {p : Precision} (proper : p.Proper) {a b r : Decimal} (h : add? p a b = some r) :
    r.Fits p := by
  have ordered : ∀ large small, addOrdered? p large small = some r → r.Fits p := by
    intro large small h
    unfold addOrdered? at h
    split at h
    · exact round?_fits proper h
    · exact round?_fits proper h
  unfold add? at h
  split at h
  · exact ordered a b h
  · exact ordered b a h

/-- A sum is zero or was rounded last, so it fits. -/
theorem sum?_fits {p : Precision} (proper : p.Proper) {ds : List Decimal} {r : Decimal}
    (h : sum? p ds = some r) : r.Fits p := by
  -- Every running sum fits, the first because it is zero.
  have running : ∀ (ds : List Decimal) (start : Decimal), start.Fits p →
      ds.foldlM (add? p) start = some r → r.Fits p := by
    intro ds
    induction ds with
    | nil =>
      intro start fits h
      cases h
      exact fits
    | cons d rest ih =>
      intro start _ h
      rw [List.foldlM_cons, Option.bind_eq_bind, Option.bind_eq_some_iff] at h
      obtain ⟨next, hn, h⟩ := h
      exact ih next (add?_fits proper hn) h
  exact running ds (ofNat 0) (Or.inl rfl) h

theorem divNat?_fits {p : Precision} (proper : p.Proper) {d r : Decimal} {n : Nat}
    (h : divNat? p d n = some r) : r.Fits p := round?_fits proper h

/-- A decimal is written exactly when it is rounded without overflow. -/
theorem shortPlain?_isSome (p : Precision) (d : Decimal) :
    (shortPlain? p d).isSome = (round? p d).isSome := by
  rw [shortPlain?, Option.isSome_map, reduce?, Option.isSome_map]

end FixedExtract.Decimal
