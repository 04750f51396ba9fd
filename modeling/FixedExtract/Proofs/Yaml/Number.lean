import FixedExtract.Proofs.Text.Numeral
import FixedExtract.Proofs.Traversal
import FixedExtract.Proofs.Yaml.Plain
import FixedExtract.Yaml.Scalar.Value
/-!
# Reading integers again

The numeral of an integer is plain, is taken for an integer, and has the integer as its value, unless it has
more digits than are read.
-/

namespace FixedExtract.Yaml

open Text (IsNumeral)

variable {digits : List Nat} {n : Int} {ch : Char}

/-- A minus sign in front of a negative number. -/
def minusOf : Int → Text
  | .ofNat _ => []
  | .negSucc _ => ['-']

/-- An integer is written with a sign, if it is negative, and its digits. -/
theorem exists_ofInt (n : Int) : ∃ digits, IsNumeral 10 n.natAbs digits ∧
    Text.ofInt n = minusOf n ++ digits.map Nat.digitChar := by
  cases n with
  | ofNat m =>
    obtain ⟨digits, numeral⟩ := Text.exists_isNumeral (by decide : 1 < 10) m
    exact ⟨digits, numeral, numeral.written⟩
  | negSucc m =>
    obtain ⟨digits, numeral⟩ := Text.exists_isNumeral (by decide : 1 < 10) (m + 1)
    exact ⟨digits, numeral, congrArg ('-' :: ·) numeral.written⟩

/-- The characters of numerals. -/
def isNumeralChar (c : Char) : Bool := Text.isAsciiDigit c || c = '-'

theorem isNumeralChar_ofInt (n : Int) : ∀ ch ∈ Text.ofInt n, isNumeralChar ch = true := by
  obtain ⟨digits, numeral, written⟩ := exists_ofInt n
  have table : ∀ digit < 10, isNumeralChar digit.digitChar = true := by decide
  intro ch hc
  rw [written, List.mem_append] at hc
  rcases hc with sign | digit
  · cases n with
    | ofNat m => cases sign
    | negSucc m =>
      rw [List.mem_singleton.1 sign]
      decide
  · obtain ⟨d, hd, rfl⟩ := List.mem_map.1 digit
    exact table d (numeral.below d hd)

theorem ofInt_ne_nil (n : Int) : Text.ofInt n ≠ [] := by
  obtain ⟨digits, numeral, written⟩ := exists_ofInt n
  rw [written]
  simp [numeral.nonEmpty]

/-- What numerals do not hold. -/
theorem ne_of_isNumeralChar (h : isNumeralChar ch = true) {other : Char}
    (apart : isNumeralChar other = false) : ch ≠ other := by
  rintro rfl
  rw [h] at apart
  cases apart

theorem isPlain_ofInt (n : Int) : IsPlain (Text.ofInt n) := by
  have chars := isNumeralChar_ofInt n
  have apart : ∀ ch ∈ Text.ofInt n, ch ≠ ' ' ∧ ch ≠ '#' ∧ ch ≠ ':' := fun ch hc =>
    ⟨ne_of_isNumeralChar (chars ch hc) (by decide), ne_of_isNumeralChar (chars ch hc) (by decide),
      ne_of_isNumeralChar (chars ch hc) (by decide)⟩
  refine ⟨ofInt_ne_nil n, ?_, ?_, ?_, ?_⟩
  · intro ch hc
    have noBreak : isWrittenBreak ch = false := by
      rw [Bool.eq_false_iff]
      intro isBreak
      have breaks : ch = '\n' ∨ ch = '\u0085' ∨ ch = '\u2028' ∨ ch = '\u2029' := by
        simpa [isWrittenBreak, or_assoc] using isBreak
      rcases breaks with rfl | rfl | rfl | rfl <;> exact absurd (chars _ hc) (by decide)
    have shown : 32 ≤ ch.toNat ∧ ch.toNat ≤ 126 := by
      have := chars ch hc
      rw [isNumeralChar, Bool.or_eq_true, Text.isAsciiDigit_eq_true_iff, decide_eq_true_eq] at this
      rcases this with digit | rfl
      · omega
      · decide
    exact ⟨by simp [isShown, shown], noBreak⟩
  · exact fun ch hc => ⟨(apart ch (List.mem_of_mem_head? hc)).1, (apart ch (List.mem_of_mem_head? hc)).2.1⟩
  · intro ch hc
    have member := List.mem_of_mem_getLast? hc
    exact ⟨(apart ch member).1, (apart ch member).2.2⟩
  · rw [List.isChain_iff_forall_rel_of_append_cons_cons]
    intro c d before behind same
    have cMember : c ∈ Text.ofInt n := by simp [same]
    exact ⟨fun both => (apart c cMember).2.2 both.1, fun both => (apart c cMember).1 both.1⟩

theorem startsMarked_ofInt (n : Int) : startsMarked (Text.ofInt n) = false := by
  obtain ⟨digits, numeral, written⟩ := exists_ofInt n
  obtain ⟨first, rest, rfl⟩ := List.exists_cons_of_ne_nil numeral.nonEmpty
  have table : ∀ digit < 10, isStartMark digit.digitChar = false ∧ isBlankOrEnd digit.digitChar = false ∧
      digit.digitChar ≠ '?' ∧ digit.digitChar ≠ ':' ∧ digit.digitChar ≠ '-' ∧ digit.digitChar ≠ '.' := by
    decide +kernel
  obtain ⟨noStart, visible, noAsk, noColon, noMinus, noDot⟩ :=
    table first (numeral.below first List.mem_cons_self)
  rw [written]
  cases n with
  | ofNat m =>
    show startsMarked (first.digitChar :: rest.map Nat.digitChar) = false
    simp [startsMarked, List.isPrefixOf, noStart, noAsk, noColon, noMinus, noMinus.symm, noDot.symm]
  | negSucc m =>
    show startsMarked ('-' :: first.digitChar :: rest.map Nat.digitChar) = false
    simp [startsMarked, List.isPrefixOf, visible, noMinus.symm]
    decide

/-! ## Integers among the plain scalars -/

/-- A sign in front of digits is told from them. -/
theorem unsigned_ofInt (numeral : IsNumeral 10 n.natAbs digits)
    (written : Text.ofInt n = minusOf n ++ digits.map Nat.digitChar) :
    unsigned (Text.ofInt n) = digits.map Nat.digitChar := by
  rw [written]
  cases n with
  | negSucc m => rfl
  | ofNat m =>
    obtain ⟨first, rest, rfl⟩ := List.exists_cons_of_ne_nil numeral.nonEmpty
    obtain ⟨-, -, -, noMinus, noPlus, -⟩ := Text.digitChar_facts first (numeral.below first (by simp))
    show unsigned (first.digitChar :: rest.map Nat.digitChar) = _
    unfold unsigned
    split
    · next same => exact absurd (List.cons.inj same).1 noPlus
    · next same => exact absurd (List.cons.inj same).1 noMinus
    · rfl

/-- Digits without a zero in front, or a zero alone, are an integer. -/
theorem isInteger_of_unsigned {text : Text} {m : Nat} (numeral : IsNumeral 10 m digits)
    (h : unsigned text = digits.map Nat.digitChar) : isInteger text = true := by
  rcases numeral.zero_or_leading with ⟨-, zero⟩ | ⟨first, rest, rfl, leading⟩
  · rw [isInteger, h, zero]
    rfl
  · have digit : Text.isAsciiDigit first.digitChar = true :=
      Text.isAsciiDigit_digitChar first (numeral.below first List.mem_cons_self)
    have spaced : (rest.map Nat.digitChar).all isSpacedDigit = true := by
      rw [List.all_map, List.all_eq_true]
      intro d hd
      have := Text.isAsciiDigit_digitChar d (numeral.below d (List.mem_cons_of_mem first hd))
      simp [isSpacedDigit, this]
    have run : isDigitRun true (first.digitChar :: rest.map Nat.digitChar) = true := by
      simp [isDigitRun, digit, leading, spaced]
    rw [isInteger, h, List.map_cons]
    split
    · rfl
    · next same => exact absurd (List.cons.inj same).1 leading
    · next same => exact absurd (List.cons.inj same).1 leading
    · next same => exact absurd (List.cons.inj same).1 leading
    · rw [run]
      rfl

theorem plainTag_ofInt (n : Int) : plainTag (Text.ofInt n) = .int := by
  obtain ⟨digits, numeral, written⟩ := exists_ofInt n
  have chars := isNumeralChar_ofInt n
  have integer := isInteger_of_unsigned numeral (unsigned_ofInt numeral written)
  have noLineEnd : withoutLineEnd (Text.ofInt n) = Text.ofInt n := by
    rw [withoutLineEnd, if_neg]
    intro last
    exact ne_of_isNumeralChar (chars '\n' (List.mem_of_getLast? last)) (by decide) rfl
  have noWord : ∀ words : List Text, (∀ word ∈ words, word.all isNumeralChar = false) →
      words.elem (Text.ofInt n) = false := by
    intro words other
    rw [Bool.eq_false_iff, ne_eq, List.elem_iff]
    intro member
    have := other _ member
    rw [List.all_eq_true.2 chars] at this
    cases this
  have noPoint : (unsigned (Text.ofInt n)).dropWhile (· ≠ '.') = [] := by
    rw [unsigned_ofInt numeral written, List.dropWhile_eq_nil_iff]
    intro ch hc
    obtain ⟨d, hd, rfl⟩ := List.mem_map.1 hc
    have digit := Text.isAsciiDigit_digitChar d (numeral.below d hd)
    have noPoint : d.digitChar ≠ '.' := by
      intro point
      rw [point] at digit
      cases digit
    exact decide_eq_true noPoint
  have noFloat : isFloat (Text.ofInt n) = false := by
    simp only [isFloat, noPoint]
  have some : (Text.ofInt n).isEmpty = false := by simpa using ofInt_ne_nil n
  simp only [plainTag, some, noLineEnd, noWord boolWords (by decide), noWord nullWords (by decide),
    noFloat, integer, Bool.false_eq_true, if_false, if_true]

/-- A numeral has its number as value: its leading digit is no zero, so it is not taken for one in another
base. -/
theorem unsignedInteger_digits {number : Nat} (numeral : IsNumeral 10 number digits)
    (short : digits.length ≤ Text.maxDigits) :
    unsignedInteger (digits.map Nat.digitChar) = .ok (number : Int) := by
  rcases numeral.zero_or_leading with ⟨zero, same⟩ | ⟨first, rest, rfl, leading⟩
  · rw [same, zero]
    rfl
  · have read := Text.readInteger_digits numeral.below numeral.nonEmpty short
    have noColon : ((first :: rest).map Nat.digitChar).elem ':' = false := by
      rw [Bool.eq_false_iff, ne_eq, List.elem_iff]
      intro member
      obtain ⟨d, hd, colon⟩ := List.mem_map.1 member
      have digit := Text.isAsciiDigit_digitChar d (numeral.below d hd)
      rw [colon] at digit
      cases digit
    rw [numeral.value] at read
    unfold unsignedInteger
    split
    · next same => cases same
    · next same => exact absurd (List.cons.inj same).1 leading
    · next same => exact absurd (List.cons.inj same).1 leading
    · next same => exact absurd (List.cons.inj same).1 leading
    · next same => exact absurd (List.cons.inj same).1 leading
    · rw [noColon, readInteger, read]
      rfl

theorem integerValue_ofInt (short : (Text.ofNat n.natAbs).length ≤ Text.maxDigits) :
    integerValue (Text.ofInt n) = .ok n := by
  obtain ⟨digits, numeral, written⟩ := exists_ofInt n
  have length : digits.length ≤ Text.maxDigits := by
    rw [numeral.length]
    exact short
  have filtered : (Text.ofInt n).filter (· ≠ '_') = Text.ofInt n := by
    rw [List.filter_eq_self]
    intro ch hc
    have apart : ch ≠ '_' := ne_of_isNumeralChar (isNumeralChar_ofInt n ch hc) (by decide)
    simpa using apart
  have size := unsignedInteger_digits numeral length
  rw [integerValue, filtered, written]
  cases n with
  | negSucc m =>
    show (unsignedInteger (digits.map Nat.digitChar) >>= fun size => _) = _
    rw [size]
    rfl
  | ofNat m =>
    obtain ⟨first, rest, rfl⟩ := List.exists_cons_of_ne_nil numeral.nonEmpty
    obtain ⟨-, -, -, noMinus, noPlus, -⟩ := Text.digitChar_facts first (numeral.below first (by simp))
    have positive : signed ((first :: rest).map Nat.digitChar) =
        .ok (false, (first :: rest).map Nat.digitChar) := by
      rw [List.map_cons, signed]
      · exact List.cons_ne_nil _ _
      · exact fun _ same => noMinus (List.cons.inj same).1
      · exact fun _ same => noPlus (List.cons.inj same).1
    rw [minusOf, List.nil_append, positive, ok_bind]
    dsimp only
    rw [size]
    rfl

end FixedExtract.Yaml
