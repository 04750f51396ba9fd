import FixedExtract.Calendar.Date
import FixedExtract.Proofs.Decimal.Written
import FixedExtract.Proofs.Text.Numeral
import Mathlib.Data.List.Induction
/-!
# Digits of a fixed number

So many ASCII digits say the same as a number with at most as many: the number is their value, and they are the
number with zeros in front.
-/

namespace FixedExtract
open Decimal (digitsValue digitsValue_lt)

/-- The text consists of so many ASCII digits. -/
structure IsDigits (width : Nat) (text : Text) : Prop where
  length : text.length = width
  ascii : ∀ c ∈ text, Text.isAsciiDigit c = true

variable {width n : Nat} {text other : Text}

theorem isDigits_iff : IsDigits width text ↔ text.length = width ∧ ∀ c ∈ text, Text.isAsciiDigit c = true :=
  ⟨fun h => ⟨h.length, h.ascii⟩, fun h => ⟨h.1, h.2⟩⟩

theorem IsDigits.value_lt (h : IsDigits width text) : digitsValue text < 10 ^ width := by
  have bound := digitsValue_lt h.ascii
  rwa [h.length] at bound

theorem IsDigits.append {behind : Nat} (front : IsDigits width text) (back : IsDigits behind other) :
    IsDigits (width + behind) (text ++ other) := by
  refine ⟨by rw [List.length_append, front.length, back.length], fun c hc => ?_⟩
  exact (List.mem_append.1 hc).elim (front.ascii c) (back.ascii c)

theorem IsDigits.take {front behind : Nat} (h : IsDigits (front + behind) text) :
    IsDigits front (text.take front) := by
  refine ⟨?_, fun c hc => h.ascii c (List.mem_of_mem_take hc)⟩
  rw [List.length_take, h.length]
  omega

theorem IsDigits.drop {front behind : Nat} (h : IsDigits (front + behind) text) :
    IsDigits behind (text.drop front) := by
  refine ⟨?_, fun c hc => h.ascii c (List.mem_of_mem_drop hc)⟩
  rw [List.length_drop, h.length]
  omega

/-- Digits have no white space among them. -/
theorem IsDigits.countP_isSpace (h : IsDigits width text) : text.countP Text.isSpace = 0 := by
  rw [List.countP_eq_zero]
  intro c hc
  have digit := Text.isDigit_of_isDecimalDigit (Text.isDecimalDigit_of_isAsciiDigit (h.ascii c hc))
  rw [Text.isSpace_eq_false_of_isDigit digit]
  decide

/-! ## The value says what the digits are -/

theorem digitsValue_concat (text : Text) (c : Char) :
    digitsValue (text ++ [c]) = digitsValue text * 10 + Text.asciiDigitValue c := by
  rw [digitsValue, List.map_append]
  exact Text.valueOfDigits_append 10 _ _

/-- Of equally many digits no two texts have the same value. -/
theorem IsDigits.eq_of_value_eq (h : IsDigits width text) (h' : IsDigits width other)
    (same : digitsValue text = digitsValue other) : text = other := by
  induction text using List.reverseRecOn generalizing width other with
  | nil =>
    have none : other.length = 0 := by rw [h'.length, ← h.length, List.length_nil]
    exact (List.length_eq_zero_iff.1 none).symm
  | append_singleton text c ih =>
    have length := h.length.trans h'.length.symm
    -- The other text has a last digit too.
    obtain ⟨others, d, rfl⟩ : ∃ others d, other = others ++ [d] := by
      refine ⟨other.dropLast, other.getLast ?_, (List.dropLast_append_getLast _).symm⟩
      rintro rfl
      simp at length
    have digit := Text.isAsciiDigit_eq_true_iff.1 (h.ascii c (by simp))
    have digit' := Text.isAsciiDigit_eq_true_iff.1 (h'.ascii d (by simp))
    rw [digitsValue_concat, digitsValue_concat, Text.asciiDigitValue, Text.asciiDigitValue] at same
    have front : text = others := by
      have digits : IsDigits text.length text := ⟨rfl, fun e he => h.ascii e (List.mem_append_left _ he)⟩
      refine ih digits ⟨?_, fun e he => h'.ascii e (List.mem_append_left _ he)⟩ (by omega)
      simpa using length.symm
    have last : c = d := Char.toNat_inj.1 (by omega)
    rw [front, last]

/-! ## Numbers with zeros in front -/

/-- A number that is not too long has as many digits as asked for, and is their value. -/
theorem zeroFilled_spec (short : n < 10 ^ width) (positive : 0 < width) :
    IsDigits width (zeroFilled width n) ∧ digitsValue (zeroFilled width n) = n := by
  obtain ⟨digits, numeral⟩ := Text.exists_isNumeral (show 1 < 10 by decide) n
  have written : Text.ofNat n = digits.map Nat.digitChar := numeral.written
  have fits : digits.length ≤ width := by
    rw [numeral.length]
    exact (Nat.length_toDigits_le_iff (by decide) positive).2 short
  have ascii : ∀ c ∈ digits.map Nat.digitChar, Text.isAsciiDigit c = true := by
    intro c hc
    obtain ⟨digit, hd, rfl⟩ := List.mem_map.1 hc
    exact Text.isAsciiDigit_digitChar digit (numeral.below digit hd)
  refine ⟨⟨?_, ?_⟩, ?_⟩
  · rw [zeroFilled, written, List.length_append, List.length_replicate, List.length_map]
    omega
  · intro c hc
    rw [zeroFilled, written] at hc
    rcases List.mem_append.1 hc with zero | digit
    · rw [List.eq_of_mem_replicate zero]
      decide
    · exact ascii c digit
  · have values : (digits.map Nat.digitChar).map Text.asciiDigitValue = digits := by
      rw [List.map_map]
      refine (List.map_congr_left fun digit hd => ?_).trans (List.map_id digits)
      show digit.digitChar.toNat - 48 = digit
      rw [Nat.toNat_digitChar_of_lt_ten (numeral.below digit hd)]
      omega
    rw [zeroFilled, written, digitsValue, List.map_append, List.map_replicate, values]
    exact (Text.valueOfDigits_replicate 10 _ digits).trans numeral.value

/-- Digits are their value with zeros in front. -/
theorem IsDigits.eq_zeroFilled (h : IsDigits width text) (positive : 0 < width) :
    text = zeroFilled width (digitsValue text) := by
  obtain ⟨filled, value⟩ := zeroFilled_spec h.value_lt positive
  exact h.eq_of_value_eq filled value.symm

end FixedExtract
