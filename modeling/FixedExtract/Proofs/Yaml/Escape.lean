import FixedExtract.Proofs.Text.Numeral
import FixedExtract.Proofs.Yaml.Cursor
import FixedExtract.Yaml.Scalar.Quoted
import FixedExtract.Yaml.Writer
import Mathlib.Algebra.Group.Nat.Defs
/-!
# Escapes

What is written for a character behind a backslash is read as that character: a letter where there is one,
or else its code point in as many hexadecimal digits as the code point needs.
-/

namespace FixedExtract.Yaml

open Cursor

variable {c : Cursor} {rest : Text} {ch : Char}

/-! ## Hexadecimal digits -/

/-- A digit as it is written in upper case. -/
def upperDigit (digit : Nat) : Char :=
  let c := digit.digitChar
  if Nat.ble 97 c.toNat && Nat.ble c.toNat 102 then Char.ofNat (c.toNat - 32) else c

theorem hexDigit?_upperDigit : ∀ digit < 16, Text.hexDigit? (upperDigit digit) = some digit := by
  decide

/-- A number that fits the width is written with that many digits. -/
theorem exists_upperHex {width n : Nat} (fits : n < 16 ^ width) (positive : 0 < width) :
    ∃ digits, upperHex width n = digits.map upperDigit ∧ (∀ digit ∈ digits, digit < 16) ∧
      digits.length = width ∧ Text.valueOfDigits 16 digits = n := by
  obtain ⟨digits, numeral⟩ := Text.exists_isNumeral (by decide : 1 < 16) n
  have short : (Nat.toDigits 16 n).length ≤ width :=
    (Nat.length_toDigits_le_iff (by decide) positive).2 fits
  have length := numeral.length
  refine ⟨List.replicate (width - digits.length) 0 ++ digits, ?_, ?_, ?_, ?_⟩
  · rw [upperHex, Text.hex, ← length, numeral.written, List.map_append, List.map_append,
      List.map_replicate, List.map_replicate, List.map_map]
    rfl
  · intro digit hd
    rcases List.mem_append.1 hd with zero | hd
    · rw [List.eq_of_mem_replicate zero]
      decide
    · exact numeral.below digit hd
  · rw [List.length_append, List.length_replicate]
    omega
  · rw [Text.valueOfDigits_replicate, numeral.value]

theorem mapM_hexDigit? {digits : List Nat} (below : ∀ digit ∈ digits, digit < 16) :
    (digits.map upperDigit).mapM Text.hexDigit? = some digits := by
  induction digits with
  | nil => rfl
  | cons digit rest ih =>
    have tail := ih fun d hd => below d (List.mem_cons_of_mem digit hd)
    rw [List.map_cons, List.mapM_cons, hexDigit?_upperDigit digit (below digit List.mem_cons_self), tail]
    rfl

/-- A character is the one with its code point. -/
theorem characterOf_toNat (ch : Char) : characterOf ch.toNat = .ok ch := by
  have valid : ch.toNat < 0xd800 ∨ (0xdfff < ch.toNat ∧ ch.toNat < 0x110000) := ch.valid
  rw [characterOf, if_neg (by omega), if_neg (by omega), Char.ofNat_toNat]

theorem readCode_upperHex {width : Nat} (fits : ch.toNat < 16 ^ width) (positive : 0 < width)
    (h : c.rest = upperHex width ch.toNat ++ rest) :
    readCode width c = .ok ([ch], c.skip width) := by
  obtain ⟨digits, written, below, length, value⟩ := exists_upperHex fits positive
  have taken : c.rest.take width = digits.map upperDigit := by
    rw [h, written, ← length, ← List.length_map (f := upperDigit), List.take_left]
  unfold readCode
  rw [taken, mapM_hexDigit? below]
  simp only [length, Nat.lt_irrefl, if_false, value, characterOf_toNat]
  rfl

/-! ## Escapes -/

theorem escapes_lookup_letter :
    ∀ pair ∈ escapeLetters, escapes.lookup pair.2 = some pair.1 := by
  decide

theorem readEscape_letter {letter : Char} (known : escapeLetters.lookup ch = some letter)
    (h : c.rest = letter :: rest) : readEscape c = .ok ([ch], c.next) := by
  obtain ⟨before, after, pairs, -⟩ := List.lookup_eq_some_iff.1 known
  have member : (ch, letter) ∈ escapeLetters := by
    rw [pairs]
    exact List.mem_append_right before List.mem_cons_self
  have found : escapes.lookup letter = some ch := escapes_lookup_letter (ch, letter) member
  rw [readEscape, here_of_rest h, found]

theorem readEscape_code {letter : Char} {width : Nat} (wide : (letter, width) ∈ codeWidths)
    (fits : ch.toNat < 16 ^ width) (h : c.rest = letter :: upperHex width ch.toNat ++ rest) :
    readEscape c = .ok ([ch], c.next.skip width) := by
  have table : ∀ pair ∈ codeWidths,
      escapes.lookup pair.1 = none ∧ codeWidths.lookup pair.1 = some pair.2 ∧ 0 < pair.2 := by
    decide
  obtain ⟨noLetter, found, positive⟩ := table (letter, width) wide
  rw [readEscape, here_of_rest h, noLetter, found]
  exact readCode_upperHex fits positive (rest_next_cons h)

/-- An escape is read as the character that it was written for. -/
theorem readEscape_escaped (special : isUnescaped ch = false) (h : c.rest = (escaped ch).tail ++ rest) :
    readEscape c = .ok ([ch], c.skip (escaped ch).tail.length) := by
  have length : ∀ width, ch.toNat < 16 ^ width → 0 < width →
      (upperHex width ch.toNat).length = width := by
    intro width fits positive
    obtain ⟨digits, written, -, length, -⟩ := exists_upperHex fits positive
    rw [written, List.length_map, length]
  unfold escaped at h ⊢
  rw [if_neg (by rw [special]; decide)] at h ⊢
  cases known : escapeLetters.lookup ch with
  | some letter =>
    simp only [known] at h
    exact readEscape_letter known h
  | none =>
    simp only [known] at h ⊢
    by_cases byte : ch.toNat ≤ 0xff
    · rw [if_pos byte] at h ⊢
      have fits : ch.toNat < 16 ^ 2 := by omega
      rw [List.tail_cons, List.length_cons, length 2 fits (by decide)]
      exact readEscape_code (by decide) fits h
    rw [if_neg byte] at h ⊢
    by_cases basic : ch.toNat ≤ 0xffff
    · rw [if_pos basic] at h ⊢
      have fits : ch.toNat < 16 ^ 4 := by omega
      rw [List.tail_cons, List.length_cons, length 4 fits (by decide)]
      exact readEscape_code (by decide) fits h
    · rw [if_neg basic] at h ⊢
      have valid : ch.toNat < 0xd800 ∨ (0xdfff < ch.toNat ∧ ch.toNat < 0x110000) := ch.valid
      have fits : ch.toNat < 16 ^ 8 := by omega
      rw [List.tail_cons, List.length_cons, length 8 fits (by decide)]
      exact readEscape_code (by decide) fits h

/-- An escape starts with a backslash. -/
theorem escaped_eq_cons (special : isUnescaped ch = false) :
    escaped ch = '\\' :: (escaped ch).tail := by
  unfold escaped
  rw [if_neg (by rw [special]; decide)]
  split
  · rfl
  · split
    · rfl
    · split <;> rfl

theorem escaped_ne_nil (ch : Char) : escaped ch ≠ [] := by
  cases plain : isUnescaped ch with
  | true =>
    rw [escaped, if_pos plain]
    exact List.cons_ne_nil ch []
  | false =>
    rw [escaped_eq_cons plain]
    exact List.cons_ne_nil _ _

end FixedExtract.Yaml
