import FixedExtract.Proofs.Decimal.HalfEven
/-!
# Arithmetic rounds as it is specified

A decimal is rounded at the place of the last digit that is kept, and that is the place at which its number is rounded.
It overflows exactly when the rounded number is beyond the range. The quotient by a natural number is rounded as the
exact quotient is, because the last digit it is given says whether anything is left over.
-/

namespace FixedExtract.Decimal

variable {p : Precision} {d r : Decimal}

/-! ## The place of the last digit -/

/-- The place of the last digit that is kept of a decimal. -/
def lastPlace (p : Precision) (d : Decimal) : ℤ := max p.tiny (d.adjusted + 1 - p.digits)

theorem roundsAt_lastPlace (nonzero : d.isZero = false) {n : ℤ}
    (nearest : NearestEven (d.value / 10 ^ lastPlace p d) n) :
    RoundsAt p d.value (lastPlace p d) n := by
  refine ⟨(abs_value_lt d).trans_le (ten_zpow_le ?_), ?_, nearest⟩
  · unfold lastPlace
    omega
  · rcases eq_or_ne (lastPlace p d) p.tiny with least | above
    · exact .inl least
    · have place : lastPlace p d = d.adjusted + 1 - p.digits := by
        unfold lastPlace at above ⊢
        omega
      refine .inr ⟨by unfold lastPlace at above ⊢; omega, ?_⟩
      rw [place]
      refine (ten_zpow_le ?_).trans (ten_zpow_adjusted_le nonzero)
      omega

theorem rounds_zero (p : Precision) : Rounds p 0 0 := by
  refine ⟨p.tiny, 0, ⟨?_, .inl rfl, ?_⟩, by simp⟩
  · rw [abs_zero]
    exact ten_zpow_pos _
  · rw [zero_div]
    exact_mod_cast NearestEven.intCast 0

theorem exists_rounds (p : Precision) (d : Decimal) : ∃ r, Rounds p d.value r := by
  cases zero : d.isZero with
  | true =>
    rw [value_eq_zero_iff.2 zero]
    exact ⟨0, rounds_zero p⟩
  | false =>
    obtain ⟨n, nearest⟩ := exists_nearestEven (d.value / 10 ^ lastPlace p d)
    exact ⟨_, _, n, roundsAt_lastPlace zero nearest, rfl⟩

/-- A decimal that ends before that place is not changed. -/
theorem rounds_self (nonzero : d.isZero = false) (h : lastPlace p d ≤ d.exponent) : Rounds p d.value d.value := by
  have units : d.value / 10 ^ lastPlace p d = d.scaledTo (lastPlace p d) := by
    rw [← scaledTo_mul h, mul_div_cancel_right₀ _ (ten_zpow_pos _).ne']
  refine ⟨_, d.scaledTo (lastPlace p d), roundsAt_lastPlace nonzero ?_, (scaledTo_mul h).symm⟩
  rw [units]
  exact NearestEven.intCast _

/-! ## Rounding a decimal -/

/-- A sign makes no difference to what is nearest. -/
theorem NearestEven.withSign {x : ℚ} {n : ℤ} (h : NearestEven x n) (negative : Bool) :
    NearestEven (if negative then -x else x) (if negative then -n else n) := by
  cases negative with
  | true => exact h.neg
  | false => exact h

/-- The size of a decimal in units of a place, which are so many of its own. -/
theorem value_div_place {e : ℤ} (h : d.exponent ≤ e) : d.value / 10 ^ e =
    if d.negative then -((d.coefficient : ℚ) / (10 ^ (e - d.exponent).toNat : ℕ))
    else (d.coefficient : ℚ) / (10 ^ (e - d.exponent).toNat : ℕ) := by
  have cancelled : d.value / 10 ^ e = d.signed / (10 ^ (e - d.exponent).toNat : ℕ) := by
    rw [value, ← ten_pow_toNat_mul h]
    push_cast
    rw [mul_div_mul_right _ _ (ten_zpow_pos _).ne']
  rw [cancelled, signed]
  cases d.negative with
  | true => simp [neg_div]
  | false => simp

/-- With fewer digits than are dropped, a coefficient is less than a tenth of a unit. -/
theorem nearestEven_of_short {n dropped : ℕ} (short : digitCount n < dropped) :
    NearestEven ((n : ℚ) / (10 ^ dropped : ℕ)) 0 := by
  have small : n * 10 < 10 ^ dropped := by
    calc n * 10 < 10 ^ digitCount n * 10 := Nat.mul_lt_mul_of_pos_right (lt_pow_digitCount n) (by decide)
      _ = 10 ^ (digitCount n + 1) := (pow_succ 10 _).symm
      _ ≤ 10 ^ dropped := Nat.pow_le_pow_right (by decide) short
  have positive : (0 : ℚ) < (10 ^ dropped : ℕ) := by exact_mod_cast Nat.pow_pos (by decide)
  have : (n : ℚ) * 10 < (10 ^ dropped : ℕ) := by exact_mod_cast small
  refine NearestEven.of_lt ?_
  rw [Int.cast_zero, sub_zero, abs_of_nonneg (by positivity), div_lt_iff₀ positive]
  linarith

/-- A decimal is rounded to the nearest multiple of a place. -/
theorem nearestEven_roundTo {e : ℤ} (h : d.exponent ≤ e) : NearestEven (d.value / 10 ^ e) (roundTo e d).signed := by
  rw [value_div_place h]
  refine NearestEven.withSign ?_ d.negative
  rw [roundTo]
  dsimp only
  split
  · next short => exact nearestEven_of_short short
  · have power : 0 < 10 ^ (e - d.exponent).toNat := Nat.pow_pos (by decide)
    have nearest := nearestEven_divHalfEven d.coefficient power
    rw [Int.cast_natCast] at nearest
    exact nearest

/-- A digit too many, which rounding up may have led to, is dropped. -/
def carried (p : Precision) (d : Decimal) : Decimal :=
  if digitCount d.coefficient > p.digits then
    { d with coefficient := d.coefficient / 10, exponent := d.exponent + 1 }
  else d

theorem value_carried (positive : 0 < p.digits) (h : d.coefficient ≤ 10 ^ p.digits) :
    (carried p d).value = d.value := by
  unfold carried
  split
  · next many =>
    -- The only coefficient with a digit too many is the power of ten.
    have large : ¬d.coefficient < 10 ^ p.digits := fun small => by
      have := (digitCount_le_iff positive).2 small
      omega
    obtain ⟨k, hk⟩ : ∃ k, p.digits = k + 1 := ⟨p.digits - 1, by omega⟩
    have power : d.coefficient = 10 * 10 ^ k := by
      rw [← pow_succ', ← hk]
      omega
    have tenth : d.coefficient / 10 = 10 ^ k := by
      rw [power]
      exact Nat.mul_div_cancel_left _ (by decide)
    unfold value signed
    dsimp only
    rw [tenth, power, zpow_add_one₀ (by norm_num)]
    split <;> push_cast <;> ring
  · rfl

/-- What rounding a decimal other than zero comes to, when its leading digit is in range. -/
theorem round?_eq (proper : p.Proper) (nonzero : d.isZero = false) (inRange : d.adjusted ≤ p.maxExponent) :
    round? p d =
      if lastPlace p d ≤ d.exponent then some d
      else if (carried p (roundTo (lastPlace p d) d)).adjusted > p.maxExponent then none
      else some (carried p (roundTo (lastPlace p d) d)) := by
  have digits_pos := proper.digits_pos
  have range := proper.range
  unfold round?
  rw [if_neg (by rw [nonzero]; decide), if_neg (not_lt.2 inRange)]
  split
  · next below =>
    -- Below the range the last digit is in the smallest place, if the decimal gets that far.
    have place : lastPlace p d = p.tiny := by
      unfold lastPlace Precision.tiny
      omega
    rw [place]
    by_cases tiny : d.exponent < p.tiny
    · -- So small a decimal keeps few enough digits that nothing is carried.
      have fits := fits_roundTo_tiny proper below tiny
      have exponent : (roundTo p.tiny d).exponent = p.tiny := rfl
      have few : digitCount (roundTo p.tiny d).coefficient ≤ p.digits ∧
          (roundTo p.tiny d).adjusted ≤ p.maxExponent := by
        rcases fits with zero | few
        · have one : digitCount (roundTo p.tiny d).coefficient = 1 := by
            rw [isZero_iff.1 zero]
            rfl
          refine ⟨by omega, ?_⟩
          rw [adjusted, one, exponent, Precision.tiny]
          omega
        · exact few
      have kept : carried p (roundTo p.tiny d) = roundTo p.tiny d := if_neg (not_lt.2 few.1)
      rw [if_pos tiny, if_neg (not_le.2 tiny), kept, if_neg (not_lt.2 few.2)]
    · rw [if_neg tiny, if_pos (not_lt.1 tiny)]
  · next normal =>
    -- Otherwise so many digits are kept, and dropping the others is rounding at the place of the last one.
    have place : lastPlace p d = d.adjusted + 1 - p.digits := by
      unfold lastPlace Precision.tiny
      omega
    by_cases none : digitCount d.coefficient - p.digits = 0
    · rw [if_pos none, if_pos]
      rw [place, adjusted]
      omega
    · have same : d.exponent + (digitCount d.coefficient - p.digits : ℕ) = lastPlace p d := by
        rw [place, adjusted]
        omega
      have goesOn : ¬lastPlace p d ≤ d.exponent := by
        rw [← same]
        omega
      rw [if_neg none, same]
      exact (if_neg goesOn).symm

/-- At a place behind which the decimal has digits, its number is rounded to the decimal rounded there. -/
theorem roundsAt_roundTo (nonzero : d.isZero = false) (h : ¬lastPlace p d ≤ d.exponent) :
    RoundsAt p d.value (lastPlace p d) (roundTo (lastPlace p d) d).signed :=
  roundsAt_lastPlace nonzero (nearestEven_roundTo (by omega))

theorem value_carried_roundTo (proper : p.Proper) (nonzero : d.isZero = false) (h : ¬lastPlace p d ≤ d.exponent) :
    (carried p (roundTo (lastPlace p d) d)).value = (roundTo (lastPlace p d) d).signed * 10 ^ lastPlace p d := by
  have bound := (roundsAt_roundTo nonzero h).abs_le_ten_pow
  have size : |(roundTo (lastPlace p d) d).signed| = (roundTo (lastPlace p d) d).coefficient := by
    have := abs_signed (roundTo (lastPlace p d) d)
    exact_mod_cast this
  rw [size] at bound
  rw [value_carried proper.digits_pos (by exact_mod_cast bound)]
  rfl

/-- A decimal is rounded as its number is. -/
theorem round?_rounds (proper : p.Proper) (h : round? p d = some r) : Rounds p d.value r.value := by
  cases zero : d.isZero with
  | true =>
    unfold round? at h
    rw [if_pos zero] at h
    cases h
    rw [value_eq_zero_iff.2 zero, value_eq_zero_iff.2 (by exact zero)]
    exact rounds_zero p
  | false =>
    have inRange : d.adjusted ≤ p.maxExponent := by
      by_contra outside
      unfold round? at h
      rw [if_neg (by rw [zero]; decide), if_pos (not_le.1 outside)] at h
      cases h
    rw [round?_eq proper zero inRange] at h
    split at h
    · next ends =>
      cases h
      exact rounds_self zero ends
    · next goesOn =>
      split at h
      · cases h
      · cases h
        exact ⟨_, _, roundsAt_roundTo zero goesOn, value_carried_roundTo proper zero goesOn⟩

/-- What fits has its leading digit in range. -/
theorem Fits.abs_value_lt (h : d.Fits p) : |d.value| < 10 ^ (p.maxExponent + 1) := by
  rcases h with zero | ⟨-, inRange⟩
  · rw [value_eq_zero_iff.2 zero, abs_zero]
    exact ten_zpow_pos _
  · exact (Decimal.abs_value_lt d).trans_le (ten_zpow_le (by omega))

theorem Precision.Proper.tiny_le (proper : p.Proper) : p.tiny ≤ p.maxExponent := by
  have digits_pos := proper.digits_pos
  have range := proper.range
  unfold Precision.tiny
  omega

/-- What is rounded down to zero is left with the place of its last digit, which is in range. -/
theorem adjusted_carried_le (proper : p.Proper) (nonzero : d.isZero = false) (inRange : d.adjusted ≤ p.maxExponent)
    (goesOn : ¬lastPlace p d ≤ d.exponent) (vanished : (carried p (roundTo (lastPlace p d) d)).isZero = true) :
    (carried p (roundTo (lastPlace p d) d)).adjusted ≤ p.maxExponent := by
  have digits_pos := proper.digits_pos
  have least := proper.tiny_le
  have value := value_carried_roundTo proper nonzero goesOn
  rw [value_eq_zero_iff.2 vanished, eq_comm, mul_eq_zero, or_iff_left (ten_zpow_pos _).ne'] at value
  have coefficient : (roundTo (lastPlace p d) d).coefficient = 0 := by
    have size := abs_signed (roundTo (lastPlace p d) d)
    rw [value, abs_zero] at size
    exact_mod_cast size.symm
  have one : digitCount (roundTo (lastPlace p d) d).coefficient = 1 := by
    rw [coefficient]
    rfl
  have kept : carried p (roundTo (lastPlace p d) d) = roundTo (lastPlace p d) d := if_neg (by omega)
  have exponent : (roundTo (lastPlace p d) d).exponent = lastPlace p d := rfl
  rw [kept, adjusted, one, exponent, lastPlace]
  omega

/-- A number beyond the range is not rounded into it. -/
theorem Rounds.le_abs (proper : p.Proper) {x y : ℚ} (h : Rounds p x y) (large : 10 ^ (p.maxExponent + 1) ≤ |x|) :
    10 ^ (p.maxExponent + 1) ≤ |y| := by
  obtain ⟨e, n, at_e, rfl⟩ := h
  have least := proper.tiny_le
  by_cases above : e ≤ p.maxExponent + 1
  · exact at_e.ten_zpow_le_abs above large
  · rcases at_e.place with same | ⟨-, low⟩
    · omega
    · -- The unit of the place is itself beyond the range.
      have digits_pos := proper.digits_pos
      have unit : (10 : ℚ) ^ e ≤ |x| := (ten_zpow_le (by omega)).trans low
      exact (ten_zpow_le (by omega)).trans (at_e.ten_zpow_le_abs le_rfl unit)

/-- A decimal overflows only when its number is rounded to one beyond the range. -/
theorem le_of_round?_eq_none (proper : p.Proper) (h : round? p d = none) {x : ℚ} (rounds : Rounds p d.value x) :
    10 ^ (p.maxExponent + 1) ≤ |x| := by
  have nonzero : d.isZero = false := by
    by_contra zero
    unfold round? at h
    rw [if_pos (by simpa using zero)] at h
    cases h
  by_cases inRange : d.adjusted ≤ p.maxExponent
  · -- The rounded decimal is the rounded number, and its leading digit is too far up.
    rw [round?_eq proper nonzero inRange] at h
    split at h
    · cases h
    · next goesOn =>
      split at h
      · next beyond =>
        have rounded : Rounds p d.value (carried p (roundTo (lastPlace p d) d)).value :=
          ⟨_, _, roundsAt_roundTo nonzero goesOn, value_carried_roundTo proper nonzero goesOn⟩
        rw [rounds.unique rounded]
        cases vanished : (carried p (roundTo (lastPlace p d) d)).isZero with
        | false => exact (ten_zpow_le (by omega)).trans (ten_zpow_adjusted_le vanished)
        | true => exact absurd beyond (not_lt.2 (adjusted_carried_le proper nonzero inRange goesOn vanished))
      · cases h
  · exact rounds.le_abs proper ((ten_zpow_le (by omega)).trans (ten_zpow_adjusted_le nonzero))

/-- A decimal whose number keeps its digits and is in range is rounded to one of the same number. -/
theorem exists_round?_of_keeps (proper : p.Proper) (keeps : Keeps p d.value)
    (inRange : |d.value| < 10 ^ (p.maxExponent + 1)) : ∃ r, round? p d = some r ∧ r.value = d.value := by
  obtain ⟨x, rounds⟩ := exists_rounds p d
  have same : x = d.value := (rounds.eq_iff proper.digits_pos).2 keeps
  cases h : round? p d with
  | none =>
    have beyond := le_of_round?_eq_none proper h rounds
    rw [same] at beyond
    exact absurd inRange (not_lt.2 beyond)
  | some r => exact ⟨r, rfl, ((round?_rounds proper h).unique rounds).trans same⟩

/-! ## Quotients -/

/-- The quotient with one digit more, which says whether anything is left over. -/
def quotient (p : Precision) (d : Decimal) (n : ℕ) : Decimal :=
  let shift := digitCount n + p.digits + 1
  let scaled := d.coefficient * Nat.pow 10 shift
  { d with
    coefficient := scaled / n * 10 + if scaled % n = 0 then 0 else 1
    exponent := d.exponent - shift - 1 }

theorem divNat?_eq (p : Precision) (d : Decimal) (n : ℕ) : divNat? p d n = round? p (quotient p d n) := rfl

/-- Less than ten more than a multiple of ten is compared with multiples of ten as the multiple is. -/
theorem ten_mul_le_iff {q m : ℤ} {f : ℚ} (more : 0 < f) (less : f < 10) : (10 * m : ℚ) ≤ 10 * q + f ↔ m ≤ q := by
  constructor
  · intro h
    have : (m : ℚ) < q + 1 := by linarith
    have : m < q + 1 := by exact_mod_cast this
    omega
  · intro h
    have : (m : ℚ) ≤ q := by exact_mod_cast h
    linarith

theorem le_ten_mul_iff {q m : ℤ} {f : ℚ} (more : 0 < f) (less : f < 10) : (10 * q + f : ℚ) ≤ 10 * m ↔ q < m := by
  constructor
  · intro h
    have : (q : ℚ) < m := by linarith
    exact_mod_cast this
  · intro h
    have : (q + 1 : ℚ) ≤ m := by exact_mod_cast h
    linarith

/-- Powers of ten above a unit are whole tens of it. -/
theorem ten_zpow_eq_tens {g a : ℤ} (h : g < a) :
    (10 : ℚ) ^ a = (10 * ((10 ^ (a - 1 - g).toNat : ℕ) : ℤ)) * 10 ^ g := by
  rw [show a = a - 1 + 1 by omega, zpow_add_one₀ (by norm_num), ← ten_pow_toNat_mul (show g ≤ a - 1 by omega)]
  push_cast
  rw [show a - 1 + 1 - 1 - g = a - 1 - g by omega]
  ring

section
variable {q : ℕ} {g e n : ℤ} {f : ℚ}

/-- Half a unit of the place is whole tens of the unit, so what is between two of them is rounded like one more than
the lower. -/
theorem NearestEven.of_leftOver (apart : g + 2 ≤ e) (h : NearestEven ((10 * (q : ℤ) + 1) * 10 ^ g / 10 ^ e) n)
    (more : 0 < f) (less : f < 10) : NearestEven ((10 * (q : ℤ) + f) * 10 ^ g / 10 ^ e) n := by
  obtain ⟨half, halves, tens⟩ : ∃ half : ℕ, 0 < half ∧ (10 : ℚ) ^ e = 20 * (half : ℤ) * 10 ^ g := by
    refine ⟨5 * 10 ^ (e - 2 - g).toNat, by positivity, ?_⟩
    rw [show e = e - 2 + 2 by omega, zpow_add₀ (by norm_num), ← ten_pow_toNat_mul (show g ≤ e - 2 by omega)]
    push_cast
    rw [show e - 2 + 2 - 2 - g = e - 2 - g by omega]
    ring
  have positive : (0 : ℚ) < 20 * (half : ℤ) := by positivity
  have near := h.near
  rw [tens, mul_div_mul_right _ _ (ten_zpow_pos g).ne'] at near ⊢
  rw [abs_le, le_sub_iff_add_le, sub_le_iff_le_add, le_div_iff₀ positive, div_le_iff₀ positive] at near
  have low : (2 * n - 1) * half ≤ (q : ℤ) := by
    refine (ten_mul_le_iff one_pos (by norm_num)).1 ?_
    push_cast at near ⊢
    linarith
  have high : (q : ℤ) < (2 * n + 1) * half := by
    refine (le_ten_mul_iff one_pos (by norm_num)).1 ?_
    push_cast at near ⊢
    linarith
  have low' : ((2 * n - 1) * half : ℚ) ≤ (q : ℤ) := by exact_mod_cast low
  have high' : ((q : ℤ) + 1 : ℚ) ≤ (2 * n + 1) * half := by exact_mod_cast high
  refine NearestEven.of_lt ?_
  rw [abs_lt, lt_sub_iff_add_lt, sub_lt_iff_lt_add, lt_div_iff₀ positive, div_lt_iff₀ positive]
  push_cast at low' high' ⊢
  constructor <;> linarith

/-- What is left over counts for rounding only as being there: it makes no difference how much it is. -/
theorem RoundsAt.of_leftOver (apart : g + 2 ≤ e) (h : RoundsAt p ((10 * (q : ℤ) + 1) * 10 ^ g) e n) (more : 0 < f)
    (less : f < 10) : RoundsAt p ((10 * (q : ℤ) + f) * 10 ^ g) e n := by
  have unit := ten_zpow_pos g
  have size : ∀ f : ℚ, 0 < f → |(10 * (q : ℤ) + f) * 10 ^ g| = (10 * (q : ℤ) + f) * 10 ^ g := fun f more =>
    abs_of_pos (mul_pos (by positivity) unit)
  have below := h.below
  have place := h.place
  rw [size 1 one_pos] at below place
  rw [ten_zpow_eq_tens (show g < e + p.digits by omega), mul_lt_mul_iff_left₀ unit] at below
  have fewer : (q : ℤ) < (10 ^ (e + p.digits - 1 - g).toNat : ℕ) := (le_ten_mul_iff one_pos (by norm_num)).1 below.le
  refine ⟨?_, ?_, h.nearest.of_leftOver apart more less⟩
  · rw [size f more, ten_zpow_eq_tens (show g < e + p.digits by omega), mul_lt_mul_iff_left₀ unit]
    have : ((q : ℤ) + 1 : ℚ) ≤ ((10 ^ (e + p.digits - 1 - g).toNat : ℕ) : ℤ) := by exact_mod_cast fewer
    linarith
  · refine place.imp_right fun ⟨above, low⟩ => ⟨above, ?_⟩
    rw [size f more]
    rw [ten_zpow_eq_tens (show g < e + p.digits - 1 by omega), mul_le_mul_iff_left₀ unit] at low ⊢
    exact (ten_mul_le_iff more less).2 ((ten_mul_le_iff one_pos (by norm_num)).1 low)

end

section
variable {n : ℕ}

/-- The quotient of a decimal other than zero has more digits than are kept. -/
theorem pow_le_quotient (hn : 0 < n) (nonzero : d.coefficient ≠ 0) :
    10 ^ (p.digits + 1) ≤ d.coefficient * 10 ^ (digitCount n + p.digits + 1) / n := by
  rw [Nat.le_div_iff_mul_le hn]
  calc 10 ^ (p.digits + 1) * n ≤ 10 ^ (p.digits + 1) * 10 ^ digitCount n :=
        Nat.mul_le_mul_left _ (lt_pow_digitCount n).le
    _ = 1 * 10 ^ (digitCount n + p.digits + 1) := by ring
    _ ≤ d.coefficient * 10 ^ (digitCount n + p.digits + 1) :=
        Nat.mul_le_mul_right _ (Nat.one_le_iff_ne_zero.2 nonzero)

/-- A quotient that is taken to more digits than are kept: so many tens of a last place, and what is left over. -/
structure TakenTo (p : Precision) (d : Decimal) (n q left : ℕ) (g : ℤ) : Prop where
  remainder : left < n
  large : left ≠ 0 → 10 ^ (p.digits + 1) ≤ q
  taken : (quotient p d n).value =
    if d.negative then -((10 * (q : ℤ) + if left = 0 then 0 else 1) * (10 : ℚ) ^ g)
    else (10 * (q : ℤ) + if left = 0 then 0 else 1) * (10 : ℚ) ^ g
  unrounded : d.value / n =
    if d.negative then -((10 * (q : ℤ) + 10 * left / n) * (10 : ℚ) ^ g)
    else (10 * (q : ℤ) + 10 * left / n) * (10 : ℚ) ^ g

theorem exists_takenTo (p : Precision) (d : Decimal) (hn : 0 < n) : ∃ q left g, TakenTo p d n q left g := by
  obtain ⟨shift, hs⟩ : ∃ shift, shift = digitCount n + p.digits + 1 := ⟨_, rfl⟩
  obtain ⟨g, hg⟩ : ∃ g, g = d.exponent - shift - 1 := ⟨_, rfl⟩
  obtain ⟨q, hq⟩ : ∃ q, q = d.coefficient * 10 ^ shift / n := ⟨_, rfl⟩
  obtain ⟨left, hl⟩ : ∃ left, left = d.coefficient * 10 ^ shift % n := ⟨_, rfl⟩
  have divisor : (0 : ℚ) < n := Nat.cast_pos.2 hn
  refine ⟨q, left, g, hl ▸ Nat.mod_lt _ hn, ?_, ?_, ?_⟩
  · -- Nothing is left over of zero.
    intro some
    have nonzero : d.coefficient ≠ 0 := by
      intro zero
      rw [zero, Nat.zero_mul, Nat.zero_mod] at hl
      exact some hl
    have large := pow_le_quotient (p := p) hn nonzero
    rwa [← hs, ← hq] at large
  · unfold quotient value signed
    dsimp only
    rw [← hs, Nat.pow_eq, ← hq, ← hl, ← hg]
    push_cast
    cases d.negative <;> simp only [Bool.false_eq_true, if_true, if_false] <;> ring
  · -- The digits that the quotient is taken to are those of the shifted coefficient.
    have whole : (d.coefficient : ℚ) * 10 ^ shift = n * q + left := by
      rw [hq, hl]
      exact_mod_cast (Nat.div_add_mod (d.coefficient * 10 ^ shift) n).symm
    have power : (10 : ℚ) ^ d.exponent = 10 ^ shift * 10 * 10 ^ g := by
      rw [← pow_succ, ← zpow_natCast, ← zpow_add₀ (by norm_num), hg]
      congr 1
      push_cast
      omega
    have size : (d.coefficient : ℚ) * 10 ^ d.exponent / n = (10 * (q : ℤ) + 10 * left / n) * 10 ^ g := by
      rw [power, ← mul_assoc, ← mul_assoc, whole]
      push_cast
      field_simp
    rw [← size, value, signed]
    cases d.negative with
    | true => simp [neg_div]
    | false => simp

/-- The digits that are kept of a quotient end far enough in front of what is left over. -/
theorem RoundsAt.of_large {q : ℕ} (large : 10 ^ (p.digits + 1) ≤ q) {g e m : ℤ}
    (h : RoundsAt p ((10 * (q : ℤ) + 1) * 10 ^ g) e m) {f : ℚ} (more : 0 < f) (less : f < 10) :
    RoundsAt p ((10 * (q : ℤ) + f) * 10 ^ g) e m := by
  refine h.of_leftOver ?_ more less
  have low : (10 : ℚ) ^ (p.digits + 2 + g) ≤ |(10 * (q : ℤ) + 1) * (10 : ℚ) ^ g| := by
    have tens : (10 ^ (p.digits + 1) : ℚ) ≤ q := by exact_mod_cast large
    rw [zpow_add₀ (by norm_num), abs_of_pos (mul_pos (by positivity) (ten_zpow_pos g))]
    refine mul_le_mul_of_nonneg_right ?_ (ten_zpow_pos g).le
    rw [show (p.digits : ℤ) + 2 = (p.digits + 1 : ℕ) + 1 by push_cast; omega, zpow_add_one₀ (by norm_num),
      zpow_natCast]
    push_cast
    linarith
  have := lt_of_ten_zpow low h.below
  omega

/-- The quotient by a natural number is rounded as the exact quotient is. -/
theorem rounds_of_quotient (hn : 0 < n) {x : ℚ} (h : Rounds p (quotient p d n).value x) :
    Rounds p (d.value / n) x := by
  obtain ⟨q, left, g, both⟩ := exists_takenTo p d hn
  have divisor : (0 : ℚ) < n := Nat.cast_pos.2 hn
  by_cases none : left = 0
  · -- Then the quotient with its last digit is exact.
    have same : d.value / n = (quotient p d n).value := by
      rw [both.unrounded, both.taken, if_pos none, none]
      simp
    rwa [same]
  · have more : (0 : ℚ) < 10 * left / n := by
      have : (0 : ℚ) < left := Nat.cast_pos.2 (Nat.pos_of_ne_zero none)
      positivity
    have less : (10 * left / n : ℚ) < 10 := by
      rw [div_lt_iff₀ divisor]
      have : (left : ℚ) < n := Nat.cast_lt.2 both.remainder
      linarith
    have large := both.large none
    have taken := both.taken
    rw [if_neg none] at taken
    obtain ⟨e, m, at_e, rfl⟩ := h
    refine ⟨e, m, ?_, rfl⟩
    rw [both.unrounded]
    rw [taken] at at_e
    -- Rounding does not see the sign, so a negative quotient is rounded as its size is.
    cases sign : d.negative with
    | true =>
      simp only [sign, if_true] at at_e ⊢
      have unsigned := at_e.neg
      rw [neg_neg] at unsigned
      have flipped := (unsigned.of_large large more less).neg
      rwa [neg_neg] at flipped
    | false =>
      simp only [sign, Bool.false_eq_true, if_false] at at_e ⊢
      exact at_e.of_large large more less

theorem divNat?_rounds (proper : p.Proper) (hn : 0 < n) (h : divNat? p d n = some r) :
    Rounds p (d.value / n) r.value :=
  rounds_of_quotient hn (round?_rounds proper h)

/-- A number is rounded to at most the next power of ten. -/
theorem Rounds.abs_lt (range : p.minExponent < p.maxExponent) {x y : ℚ} (h : Rounds p x y)
    (small : |x| < 10 ^ p.maxExponent) : |y| < 10 ^ (p.maxExponent + 1) := by
  obtain ⟨e, n, at_e, rfl⟩ := h
  have digits : (|n| : ℚ) ≤ 10 ^ p.digits := by exact_mod_cast at_e.abs_le_ten_pow
  have size : |(n : ℚ) * 10 ^ e| ≤ 10 ^ (p.digits + e) := by
    rw [RoundsAt.abs_multiple, zpow_add₀ (by norm_num), zpow_natCast]
    push_cast
    exact mul_le_mul_of_nonneg_right digits (ten_zpow_pos e).le
  -- The place is too low for the digits to reach beyond the next power of ten.
  refine size.trans_lt (ten_zpow_lt ?_)
  rcases at_e.place with least | ⟨-, low⟩
  · rw [least, Precision.tiny]
    omega
  · have := lt_of_ten_zpow low small
    omega

theorem exists_divNat? (proper : p.Proper) (range : p.minExponent < p.maxExponent) (hn : 0 < n)
    (small : |d.value| < 10 ^ p.maxExponent) : ∃ r, divNat? p d n = some r := by
  rw [divNat?_eq]
  cases h : round? p (quotient p d n) with
  | some r => exact ⟨r, rfl⟩
  | none =>
    obtain ⟨x, rounds⟩ := exists_rounds p (quotient p d n)
    have beyond := le_of_round?_eq_none proper h rounds
    have quotient_small : |d.value / n| < 10 ^ p.maxExponent := by
      rw [abs_div, Nat.abs_cast]
      refine (div_le_self (abs_nonneg _) ?_).trans_lt small
      exact_mod_cast hn
    have := (rounds_of_quotient hn rounds).abs_lt range quotient_small
    exact absurd this (not_lt.2 beyond)

end

end FixedExtract.Decimal
