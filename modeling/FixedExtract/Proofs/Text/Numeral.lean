import FixedExtract.Proofs.Text.Class
import FixedExtract.Text.Integer
import Mathlib.Data.List.Basic
/-!
# Numerals

A numeral consists of the digits of its number, the first of which is no zero unless the number is. So the
number is the value of the digits again, in every base for which there are digits.
-/

namespace FixedExtract.Text

theorem valueOfDigits_append (base : Nat) (digits : List Nat) (digit : Nat) :
    valueOfDigits base (digits ++ [digit]) = valueOfDigits base digits * base + digit := by
  rw [valueOfDigits, List.foldl_append]
  rfl

/-- Zeros in front of digits do not count. -/
theorem valueOfDigits_replicate (base count : Nat) (digits : List Nat) :
    valueOfDigits base (List.replicate count 0 ++ digits) = valueOfDigits base digits := by
  induction count with
  | zero => rfl
  | succ count ih =>
    rw [List.replicate_succ, List.cons_append, valueOfDigits, List.foldl_cons, Nat.zero_mul]
    exact ih

/-- The digits of a number. -/
structure IsNumeral (base n : Nat) (digits : List Nat) : Prop where
  written : Nat.toDigits base n = digits.map Nat.digitChar
  below : ∀ digit ∈ digits, digit < base
  value : valueOfDigits base digits = n
  nonEmpty : digits ≠ []
  leading : 0 < n → ∀ digit ∈ digits.head?, digit ≠ 0

/-- Every number has digits. -/
theorem exists_isNumeral {base : Nat} (hb : 1 < base) (n : Nat) :
    ∃ digits, IsNumeral base n digits := by
  induction n using Nat.strongRecOn with
  | ind n ih =>
    rcases Nat.lt_or_ge n base with small | large
    · refine ⟨[n], Nat.toDigits_of_lt_base small, by simpa using small, ?_, by simp, ?_⟩
      · rw [valueOfDigits, List.foldl_cons, Nat.zero_mul, Nat.zero_add]
        rfl
      · intro positive digit hd
        cases hd
        exact Nat.ne_of_gt positive
    · -- The last digit is the remainder, and the digits before it are those of the quotient.
      have quotient : n / base < n := Nat.div_lt_self (by omega) hb
      have positive : 0 < n / base := Nat.div_pos large (by omega)
      obtain ⟨digits, numeral⟩ := ih (n / base) quotient
      refine ⟨digits ++ [n % base], ?_, ?_, ?_, by simp, ?_⟩
      · rw [Nat.toDigits_of_base_le hb large, numeral.written, List.map_append]
        rfl
      · intro digit hd
        rcases List.mem_append.1 hd with hd | hd
        · exact numeral.below digit hd
        · rw [List.mem_singleton.1 hd]
          exact Nat.mod_lt n (by omega)
      · rw [valueOfDigits_append, numeral.value, Nat.mul_comm]
        exact Nat.div_add_mod n base
      · intro _ digit hd
        rw [List.head?_append_of_ne_nil _ numeral.nonEmpty] at hd
        exact numeral.leading positive digit hd

theorem IsNumeral.length {base n : Nat} {digits : List Nat} (h : IsNumeral base n digits) :
    digits.length = (Nat.toDigits base n).length := by
  rw [h.written, List.length_map]

/-- Zero has a zero as its only digit, and no other number starts with one. -/
theorem IsNumeral.zero_or_leading {n : Nat} {digits : List Nat} (h : IsNumeral 10 n digits) :
    (n = 0 ∧ digits.map Nat.digitChar = ['0']) ∨
      ∃ first rest, digits = first :: rest ∧ first.digitChar ≠ '0' := by
  by_cases zero : n = 0
  · subst zero
    exact .inl ⟨rfl, h.written.symm⟩
  · obtain ⟨first, rest, rfl⟩ := List.exists_cons_of_ne_nil h.nonEmpty
    have leading := h.leading (Nat.pos_of_ne_zero zero) first rfl
    exact .inr ⟨first, rest, rfl, by simpa using leading⟩

theorem isAsciiDigit_digitChar : ∀ digit < 10, isAsciiDigit digit.digitChar = true := by decide

/-! ## Reading decimal numerals -/

section
variable {digits : List Nat}

/-- Digits stand for themselves: they are no white space, and no digits of another script. -/
theorem digitChar_facts : ∀ digit < 10, isNumeralSpace digit.digitChar = false ∧
    asciiDigit digit.digitChar = digit.digitChar ∧ digitIn? 10 digit.digitChar = some digit ∧
    digit.digitChar ≠ '-' ∧ digit.digitChar ≠ '+' ∧ digit.digitChar ≠ '_' := by
  decide

theorem digitsIn?_digits (below : ∀ digit ∈ digits, digit < 10) (nonEmpty : digits ≠ []) :
    digitsIn? 10 (digits.map Nat.digitChar) = some digits := by
  induction digits with
  | nil => exact absurd rfl nonEmpty
  | cons digit rest ih =>
    obtain ⟨-, -, value, -⟩ := digitChar_facts digit (below digit List.mem_cons_self)
    cases rest with
    | nil => simp [digitsIn?, value]
    | cons next rest =>
      obtain ⟨-, -, -, -, -, noUnderscore⟩ := digitChar_facts next (below next (by simp))
      have tail := ih (fun d hd => below d (List.mem_cons_of_mem digit hd)) (List.cons_ne_nil next rest)
      rw [List.map_cons, List.map_cons, digitsIn?]
      · rw [← List.map_cons, value, tail]
      · exact List.cons_ne_nil _ _
      · exact fun _ same => noUnderscore (List.cons.inj same).1

/-- There is nothing to trim when no character is one to be trimmed. -/
theorem trimBy_eq_self {p : Char → Bool} {text : Text} (h : ∀ c ∈ text, p c = false) :
    trimBy p text = text := by
  have kept : ∀ part : Text, (∀ c ∈ part, p c = false) → part.dropWhile p = part := by
    intro part apart
    cases part with
    | nil => rfl
    | cons c rest => exact List.dropWhile_cons_of_neg (Bool.eq_false_iff.1 (apart c List.mem_cons_self))
  have reversed : ∀ c ∈ text.reverse, p c = false := fun c hc => h c (List.mem_reverse.1 hc)
  rw [trimBy, kept text h, kept _ reversed, List.reverse_reverse]

/-- The digits of a number that is not too long are read as the number. -/
theorem readInteger_digits (below : ∀ digit ∈ digits, digit < 10) (nonEmpty : digits ≠ [])
    (short : digits.length ≤ maxDigits) :
    readInteger 10 (digits.map Nat.digitChar) = .ok (valueOfDigits 10 digits : Int) := by
  have trimmed : trimBy isNumeralSpace (digits.map Nat.digitChar) = digits.map Nat.digitChar := by
    refine trimBy_eq_self ?_
    intro c hc
    obtain ⟨digit, hd, rfl⟩ := List.mem_map.1 hc
    exact (digitChar_facts digit (below digit hd)).1
  have ascii : (digits.map Nat.digitChar).map asciiDigit = digits.map Nat.digitChar := by
    rw [List.map_map]
    exact List.map_congr_left fun digit hd => (digitChar_facts digit (below digit hd)).2.1
  have read := digitsIn?_digits below nonEmpty
  have noMark : dropBaseMark 10 (digits.map Nat.digitChar) = digits.map Nat.digitChar := rfl
  obtain ⟨digit, rest, rfl⟩ := List.exists_cons_of_ne_nil nonEmpty
  obtain ⟨-, -, -, noMinus, noPlus, -⟩ := digitChar_facts digit (below digit List.mem_cons_self)
  rw [readInteger, trimmed, ascii]
  split
  next negative unsigned same =>
  split at same
  · next rest' front =>
    exact absurd (List.cons.inj front).1 noMinus
  · next rest' front =>
    exact absurd (List.cons.inj front).1 noPlus
  · cases same
    rw [noMark, read]
    simp only [Nat.not_lt.2 short, and_false, if_false]
    rfl

end

end FixedExtract.Text
