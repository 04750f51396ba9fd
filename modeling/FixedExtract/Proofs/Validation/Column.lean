import FixedExtract.Proofs.Decimal.Spelled
import FixedExtract.Proofs.Decimal.Value
import FixedExtract.Validation.Check
/-!
# Decimal columns

A column has room for so many digits, of which so many are behind the point. A number with few enough digits behind the
point fits it when its size is below the power of ten for the digits that are left. Digits are counted rather than
compared, and the one digit of zero is counted like any other: so zero does not fit where there is no room for a digit
in the place that it is written at.
-/

namespace FixedExtract

open Decimal (Spells spelled)

variable {p s : ℤ} {d : Decimal}

/-- A number other than zero has its leading digit in front of a place exactly when it is below that power of ten. -/
theorem abs_value_lt_iff (nonzero : d.isZero = false) {e : ℤ} : |d.value| < 10 ^ e ↔ d.adjusted < e := by
  constructor
  · exact Decimal.lt_of_ten_zpow (Decimal.ten_zpow_adjusted_le nonzero)
  · intro small
    exact (Decimal.abs_value_lt d).trans_le (Decimal.ten_zpow_le (by omega))

/-- The count of the digits agrees with the size of the number but for a zero whose digit is too far up. -/
theorem fitsColumn_iff (least : 0 ≤ s) (most : s ≤ p) : Format.fitsColumn (some p) (some s) d = true ↔
    -d.exponent ≤ s ∧ |d.value| < 10 ^ (p - s) ∧ ¬(d.value = 0 ∧ p - s ≤ d.exponent) := by
  have places : (if d.exponent < 0 then -d.exponent else 0) ≤ s ↔ -d.exponent ≤ s := by
    split <;> omega
  have whole : max (Decimal.digitCount d.coefficient + d.exponent) 0 ≤ p - s ↔
      Decimal.digitCount d.coefficient + d.exponent ≤ p - s := by
    omega
  rw [Format.fitsColumn, Bool.and_eq_true]
  dsimp only [Option.all_some, Option.getD_some]
  rw [decide_eq_true_eq, decide_eq_true_eq, places, whole]
  refine and_congr_right fun _ => ?_
  cases zero : d.isZero with
  | true =>
    -- Zero has one digit, in the place of its exponent, and no size.
    have one : Decimal.digitCount d.coefficient = 1 := by
      rw [Decimal.isZero_iff.1 zero]
      rfl
    have value := Decimal.value_eq_zero_iff.2 zero
    rw [one, value, abs_zero]
    constructor
    · intro fits
      exact ⟨Decimal.ten_zpow_pos _, fun far => by omega⟩
    · rintro ⟨-, near⟩
      by_contra far
      exact near ⟨rfl, by omega⟩
  | false =>
    -- The digits before the point are as many as there are places up to the leading one.
    have nonzero : d.value ≠ 0 := by
      rw [Ne, Decimal.value_eq_zero_iff, zero]
      decide
    rw [abs_value_lt_iff zero, Decimal.adjusted]
    constructor
    · intro fits
      exact ⟨by omega, fun far => nonzero far.1⟩
    · rintro ⟨small, -⟩
      omega

namespace Check

/-- A text that denotes a decimal is spelled in one way or another. However it is, it is accepted for a column exactly
when its digits behind the point are no more than the column has, its size is below the power of ten for the others,
and it is not a zero with an exponent that leaves no room for its digit. -/
theorem isOfType_decimal_iff {rule : Rule} {text : Text} (precision : rule.precision = some p)
    (scale : rule.scale = some s) (least : 0 ≤ s) (most : s ≤ p) (read : Decimal.read? text = some d) :
    (∃ negative whole fraction exponent, Spells text negative whole fraction exponent) ∧
    ∀ negative whole fraction exponent, Spells text negative whole fraction exponent →
      (isOfType rule text .decimal = .ok true ↔
        fraction.length - exponent ≤ s ∧ |(spelled negative whole fraction exponent).value| < 10 ^ (p - s) ∧
          ¬((spelled negative whole fraction exponent).value = 0 ∧ p - s ≤ exponent - fraction.length)) := by
  refine ⟨Decimal.exists_spells read, ?_⟩
  intro negative whole fraction exponent spells
  have same : d = spelled negative whole fraction exponent := by
    rw [spells.read?_eq] at read
    split at read
    · exact (Option.some.inj read).symm
    · cases read
  have places : (fraction.length : ℤ) - exponent = -(spelled negative whole fraction exponent).exponent := by
    show (fraction.length : ℤ) - exponent = -(exponent - fraction.length)
    omega
  have accepted : isOfType rule text .decimal = .ok (Format.fitsColumn (some p) (some s) d) := by
    rw [isOfType, read, precision, scale]
    rfl
  rw [accepted, Except.ok.injEq, fitsColumn_iff least most, same, places]
  rfl

/-- A rule for a column of so many digits, so many of them behind the point. -/
def columnRule (precision scale : ℤ) : Rule where
  id := ['D']
  kind := .dataType
  field := some "AMOUNT"
  order := 1
  severity := .error
  enabled := true
  dataType := some "DECIMAL"
  minLength := none
  maxLength := none
  pattern := none
  range := none
  message := none
  required := false
  precision := some precision
  scale := some scale
  referenceTable := none
  referenceColumn := none

theorem isOfType_decimal_signed : (columnRule 5 2).precision = some 5 ∧ (columnRule 5 2).scale = some 2 ∧
    Decimal.read? "-123.45" = some ⟨true, 12345, -2⟩ ∧
    (∃ negative whole fraction exponent, Spells "-123.45" negative whole fraction exponent) ∧
    ∀ negative whole fraction exponent, Spells "-123.45" negative whole fraction exponent →
      (isOfType (columnRule 5 2) "-123.45" .decimal = .ok true ↔
        fraction.length - exponent ≤ 2 ∧ |(spelled negative whole fraction exponent).value| < 10 ^ ((5 : ℤ) - 2) ∧
          ¬((spelled negative whole fraction exponent).value = 0 ∧ (5 : ℤ) - 2 ≤ exponent - fraction.length)) := by
  have read : Decimal.read? "-123.45" = some ⟨true, 12345, -2⟩ := by decide +kernel
  exact ⟨rfl, rfl, read, isOfType_decimal_iff rfl rfl (by decide) (by decide) read⟩

/-- A zero without a point has no digit behind it and is below one, but does not fit a column that has all of its
digits behind the point. Other spellings of zero do, and so do other numbers below one. -/
theorem isOfType_zero : Spells ['0'] false ['0'] [] 0 ∧ ([] : Text).length - (0 : ℤ) ≤ 2 ∧
    |(spelled false ['0'] [] 0).value| < 10 ^ ((2 : ℤ) - 2) ∧
    isOfType (columnRule 2 2) ['0'] .decimal = .ok false ∧
    isOfType (columnRule 2 2) "0.0" .decimal = .ok true ∧ isOfType (columnRule 2 2) "0.5" .decimal = .ok true := by
  have zero : (spelled false ['0'] [] 0).value = 0 := Decimal.value_eq_zero_iff.2 (by decide)
  have ascii : ∀ c ∈ ['0'] ++ [], Text.isAsciiDigit c = true := by
    intro c hc
    rw [List.mem_singleton.1 hc]
    decide
  refine ⟨⟨ascii, by simp, [], [], [], .inr ⟨.inr rfl, rfl⟩, .inr ⟨rfl, rfl⟩, .absent, by decide +kernel⟩, by decide,
    ?_, by decide +kernel, by decide +kernel, by decide +kernel⟩
  rw [zero, abs_zero]
  exact Decimal.ten_zpow_pos _

end Check
end FixedExtract
