import FixedExtract.Decimal.Basic
import FixedExtract.Proofs.Decimal.Rounding
import FixedExtract.Proofs.Text.Class
/-!
# Numbers as they are written

A sign, digits, and maybe a point with digits behind it. What is written like this in decimal digits of any
script denotes a decimal unless it is longer than any exponent, and what is written in other digits does not
denote one.
-/

namespace FixedExtract.Decimal

/-- The point and the digits behind it, if there are any. -/
def pointAnd (fraction : Text) : Text := if fraction = [] then [] else '.' :: fraction

/-- The sign, the digits before the point and those behind it. -/
def written (negative : Bool) (whole fraction : Text) : Text :=
  (if negative then ['-'] else []) ++ (whole ++ pointAnd fraction)

/-- The text is a number that is written in digits of one class. -/
def Written (digit : Char → Bool) (text : Text) : Prop :=
  ∃ negative whole fraction, text = written negative whole fraction ∧ whole ≠ [] ∧
    (∀ c ∈ whole, digit c = true) ∧ ∀ c ∈ fraction, digit c = true

theorem mem_pointAnd {fraction : Text} {c : Char} (h : c ∈ pointAnd fraction) : c = '.' ∨ c ∈ fraction := by
  unfold pointAnd at h
  split at h
  · simp at h
  · exact List.mem_cons.1 h

theorem subset_pointAnd {fraction : Text} {c : Char} (h : c ∈ fraction) : c ∈ pointAnd fraction := by
  unfold pointAnd
  split
  · next empty =>
    rw [empty] at h
    exact h
  · exact List.mem_cons_of_mem _ h

theorem length_pointAnd (fraction : Text) : fraction.length ≤ (pointAnd fraction).length := by
  unfold pointAnd
  split
  · next empty => rw [empty]
  · simp

/-- A character of a number is a sign, a point or a digit. -/
theorem Written.mem_cases {digit : Char → Bool} {text : Text} (h : Written digit text) {c : Char}
    (hc : c ∈ text) : c = '-' ∨ c = '.' ∨ digit c = true := by
  obtain ⟨negative, whole, fraction, rfl, -, wholeDigits, fractionDigits⟩ := h
  rw [written, List.mem_append, List.mem_append] at hc
  rcases hc with sign | inWhole | behind
  · left
    cases negative with
    | true => simpa using sign
    | false => simp at sign
  · exact .inr (.inr (wholeDigits c inWhole))
  · rcases mem_pointAnd behind with point | inFraction
    · exact .inr (.inl point)
    · exact .inr (.inr (fractionDigits c inFraction))

/-- The class of the digits may be another one that all the digits are in. -/
theorem Written.imp {digit other : Char → Bool} {text : Text} (h : Written digit text)
    (imp : ∀ c ∈ text, digit c = true → other c = true) : Written other text := by
  obtain ⟨negative, whole, fraction, rfl, nonEmpty, wholeDigits, fractionDigits⟩ := h
  refine ⟨negative, whole, fraction, rfl, nonEmpty, ?_, ?_⟩
  · intro c hc
    refine imp c ?_ (wholeDigits c hc)
    rw [written, List.mem_append, List.mem_append]
    exact .inr (.inl hc)
  · intro c hc
    refine imp c ?_ (fractionDigits c hc)
    rw [written, List.mem_append, List.mem_append]
    exact .inr (.inr (subset_pointAnd hc))

theorem Written.isSpace_eq_false {text : Text} (h : Written Text.isDigit text) :
    ∀ c ∈ text, Text.isSpace c = false := by
  intro c hc
  rcases h.mem_cases hc with rfl | rfl | digit
  · decide
  · decide
  · exact Text.isSpace_eq_false_of_isDigit digit

/-! ## What denotes a decimal is written in decimal digits -/

/-- A character that has an ASCII form is an underscore, in ASCII, or a decimal digit. -/
theorem cases_of_asciiForm? {text ascii : Text} (h : asciiForm? text = some ascii) :
    ∀ c ∈ text, c = '_' ∨ c.toNat < 128 ∨ Text.isDecimalDigit c = true := by
  fun_induction asciiForm? text generalizing ascii with
  | case1 => simp
  | case2 rest ih =>
    intro c hc
    rcases List.mem_cons.1 hc with rfl | hc
    · exact .inl rfl
    · exact ih h c hc
  | case3 first rest _ small ih =>
    obtain ⟨others, ho, -⟩ := Option.map_eq_some_iff.1 h
    intro c hc
    rcases List.mem_cons.1 hc with rfl | hc
    · exact .inr (.inl small)
    · exact ih ho c hc
  | case4 first rest _ _ value found ih =>
    obtain ⟨others, ho, -⟩ := Option.map_eq_some_iff.1 h
    intro c hc
    rcases List.mem_cons.1 hc with rfl | hc
    · exact .inr (.inr (Text.isDecimalDigit_of_decimalValue? found))
    · exact ih ho c hc
  | case5 => cases h

theorem Written.decimal_of_read? {text : Text} (h : Written Text.isDigit text) {d : Decimal}
    (read : read? text = some d) : Written Text.isDecimalDigit text := by
  rw [read?, Text.strip_eq_self h.isSpace_eq_false] at read
  obtain ⟨ascii, ha, -⟩ := Option.bind_eq_some_iff.1 read
  -- The underscore is the one other character that is let through, and it is no digit.
  refine h.imp ?_
  intro c hc digit
  rcases cases_of_asciiForm? ha c hc with rfl | small | decimal
  · exact absurd digit (by decide)
  · exact Text.isDecimalDigit_of_isAsciiDigit (Text.isAsciiDigit_of_isDigit digit small)
  · exact decimal

/-! ## What is written in decimal digits denotes a decimal -/

theorem asciiForm?_append (a b : Text) :
    asciiForm? (a ++ b) = (asciiForm? a).bind fun x => (asciiForm? b).map (x ++ ·) := by
  fun_induction asciiForm? a with
  | case1 => simp
  | case2 rest ih => rw [List.cons_append, asciiForm?, if_pos rfl, ih]
  | case3 c rest underscore small ih =>
    rw [List.cons_append, asciiForm?, if_neg underscore, if_pos small, ih]
    cases asciiForm? rest <;> cases asciiForm? b <;> rfl
  | case4 c rest underscore large value found ih =>
    rw [List.cons_append, asciiForm?, if_neg underscore, if_neg large, found, ih]
    cases asciiForm? rest <;> cases asciiForm? b <;> rfl
  | case5 c rest underscore large missing =>
    rw [List.cons_append, asciiForm?, if_neg underscore, if_neg large, missing]
    rfl

/-- Decimal digits of any script become as many ASCII digits. -/
theorem asciiForm?_digits {digits : Text} (decimal : ∀ c ∈ digits, Text.isDecimalDigit c = true) :
    ∃ ascii, asciiForm? digits = some ascii ∧ ascii.length = digits.length ∧
      ∀ c ∈ ascii, Text.isAsciiDigit c = true := by
  induction digits with
  | nil => exact ⟨[], rfl, rfl, by simp⟩
  | cons c rest ih =>
    obtain ⟨ascii, ha, sameLength, asciiDigits⟩ := ih fun d hd => decimal d (List.mem_cons_of_mem c hd)
    have digit := decimal c List.mem_cons_self
    have plain : c ≠ '_' := by
      rintro rfl
      exact absurd digit (by decide)
    have several : ∀ {d : Char}, Text.isAsciiDigit d = true →
        ∀ e ∈ d :: ascii, Text.isAsciiDigit e = true := by
      intro d hd e he
      rcases List.mem_cons.1 he with rfl | he
      · exact hd
      · exact asciiDigits e he
    rw [asciiForm?, if_neg plain]
    by_cases small : c.toNat < 128
    · rw [if_pos small, ha]
      have isAscii := Text.isAsciiDigit_of_isDigit (Text.isDigit_of_isDecimalDigit digit) small
      exact ⟨c :: ascii, rfl, congrArg (· + 1) sameLength, several isAscii⟩
    · obtain ⟨value, below, found⟩ := Text.decimalValue?_of_isDecimalDigit digit
      have isAscii : Text.isAsciiDigit (Char.ofNat (48 + value)) = true := by
        have all : ∀ v < 10, Text.isAsciiDigit (Char.ofNat (48 + v)) = true := by decide
        exact all value below
      rw [if_neg small, found, ha]
      exact ⟨_, rfl, congrArg (· + 1) sameLength, several isAscii⟩

/-- Reading on from a value, the digits stay below the next value followed by as many zeros. -/
theorem foldl_digits_lt {values : List Nat} (small : ∀ v ∈ values, v < 10) (start : Nat) :
    values.foldl (fun value digit => value * 10 + digit) start < (start + 1) * 10 ^ values.length := by
  induction values generalizing start with
  | nil => simp
  | cons v rest ih =>
    have first := small v List.mem_cons_self
    have later := ih (fun u hu => small u (List.mem_cons_of_mem v hu)) (start * 10 + v)
    rw [List.foldl_cons, List.length_cons]
    calc rest.foldl (fun value digit => value * 10 + digit) (start * 10 + v)
        < (start * 10 + v + 1) * 10 ^ rest.length := later
      _ ≤ ((start + 1) * 10) * 10 ^ rest.length := Nat.mul_le_mul_right _ (by omega)
      _ = (start + 1) * 10 ^ (rest.length + 1) := by ring

theorem digitsValue_lt {digits : Text} (ascii : ∀ c ∈ digits, Text.isAsciiDigit c = true) :
    digitsValue digits < 10 ^ digits.length := by
  have small : ∀ v ∈ digits.map Text.asciiDigitValue, v < 10 := by
    intro v hv
    obtain ⟨c, hc, rfl⟩ := List.mem_map.1 hv
    have := Text.isAsciiDigit_eq_true_iff.1 (ascii c hc)
    rw [Text.asciiDigitValue]
    omega
  have bound := foldl_digits_lt small 0
  rw [List.length_map, Nat.zero_add, Nat.one_mul] at bound
  exact bound

/-- A run of digits and the text behind it come apart where the run ends. -/
theorem span_digits {digits rest : Text} (ascii : ∀ c ∈ digits, Text.isAsciiDigit c = true)
    (ends : ∀ c ∈ rest.head?, Text.isAsciiDigit c = false) :
    (digits ++ rest).takeWhile Text.isAsciiDigit = digits ∧
      (digits ++ rest).dropWhile Text.isAsciiDigit = rest := by
  rw [Text.takeWhile_append_apart ends, Text.dropWhile_append_apart ends,
    List.takeWhile_eq_self_iff.2 ascii, List.dropWhile_eq_nil_iff.2 ascii]
  exact ⟨rfl, rfl⟩

/-- Digits end where the point is. -/
theorem pointAnd_ends (fraction : Text) : ∀ c ∈ (pointAnd fraction).head?, Text.isAsciiDigit c = false := by
  unfold pointAnd
  split
  · simp
  · intro c hc
    cases hc
    decide

/-- The exponents are so wide apart that a number without an exponent is refused only when it is longer
than they are. -/
theorem readUnsigned?_isSome (negative : Bool) {whole fraction : Text} (nonEmpty : whole ≠ [])
    (wholeDigits : ∀ c ∈ whole, Text.isAsciiDigit c = true)
    (fractionDigits : ∀ c ∈ fraction, Text.isAsciiDigit c = true)
    (short : whole.length + fraction.length ≤ 1000000000000000000) :
    (readUnsigned? negative (whole ++ pointAnd fraction)).isSome := by
  obtain ⟨taken, dropped⟩ := span_digits wholeDigits (pointAnd_ends fraction)
  have value : digitsValue (whole ++ fraction) < 10 ^ (whole.length + fraction.length) := by
    rw [← List.length_append]
    refine digitsValue_lt fun c hc => ?_
    exact (List.mem_append.1 hc).elim (wholeDigits c) (fractionDigits c)
  have wholePos : 0 < whole.length := List.length_pos_iff.2 nonEmpty
  have digits := (digitCount_le_iff (by omega)).2 value
  -- The exponent is the number of digits behind the point, below zero, and the first digit is at most as far
  -- up as there are digits.
  have within :
      withinLimits ⟨negative, digitsValue (whole ++ fraction), 0 - (fraction.length : Int)⟩ = true := by
    unfold withinLimits trailingLimit leadingLimit adjusted
    rw [Bool.and_eq_true, decide_eq_true_eq]
    refine ⟨by dsimp only; omega, ?_⟩
    split
    · rw [decide_eq_true_eq]
      dsimp only
      omega
    · rw [decide_eq_true_eq]
      dsimp only
      omega
  have someWhole : whole.isEmpty = false := List.isEmpty_eq_false_iff.2 nonEmpty
  unfold readUnsigned?
  rw [taken, dropped]
  -- Without a fraction there is no point either, and the exponent is zero.
  by_cases empty : fraction = []
  · have point : pointAnd fraction = [] := if_pos empty
    subst empty
    rw [List.append_nil] at within
    rw [point]
    simp only [someWhole, Bool.false_and, List.append_nil, readExponent?, Option.bind_eq_bind,
      Option.bind_some, within]
    rfl
  · have point : pointAnd fraction = '.' :: fraction := if_neg empty
    have spanned := span_digits fractionDigits (fun c (hc : c ∈ ([] : Text).head?) => by cases hc)
    rw [List.append_nil] at spanned
    rw [point]
    simp only [spanned.1, spanned.2, someWhole, Bool.false_and, readExponent?, Option.bind_eq_bind,
      Option.bind_some, within]
    rfl

/-- The sign of a number comes off its front. -/
theorem splitSign_written (negative : Bool) {whole fraction : Text} (nonEmpty : whole ≠ [])
    (digits : ∀ c ∈ whole, Text.isAsciiDigit c = true) :
    splitSign (written negative whole fraction) = (negative, whole ++ pointAnd fraction) := by
  cases negative with
  | true => rfl
  | false =>
    obtain ⟨first, rest, rfl⟩ := List.exists_cons_of_ne_nil nonEmpty
    have digit := digits first List.mem_cons_self
    show splitSign (first :: (rest ++ pointAnd fraction)) = (false, first :: (rest ++ pointAnd fraction))
    unfold splitSign
    split
    · next heq =>
      cases heq
      exact absurd digit (by decide)
    · next heq =>
      cases heq
      exact absurd digit (by decide)
    · rfl

theorem asciiForm?_pointAnd {fraction ascii : Text} (h : asciiForm? fraction = some ascii)
    (sameLength : ascii.length = fraction.length) :
    asciiForm? (pointAnd fraction) = some (pointAnd ascii) := by
  unfold pointAnd
  by_cases empty : fraction = []
  · have alsoEmpty : ascii = [] := by
      rw [← List.length_eq_zero_iff, sameLength, empty]
      rfl
    rw [if_pos empty, if_pos alsoEmpty]
    rfl
  · have alsoSome : ascii ≠ [] := by
      intro none
      rw [none] at sameLength
      exact empty (List.length_eq_zero_iff.1 sameLength.symm)
    rw [if_neg empty, if_neg alsoSome, asciiForm?, if_neg (by decide), if_pos (by decide), h]
    rfl

theorem Written.read?_isSome {text : Text} (h : Written Text.isDecimalDigit text)
    (short : text.length ≤ 1000000000000000000) : (read? text).isSome := by
  have wide : Written Text.isDigit text := h.imp fun _ _ => Text.isDigit_of_isDecimalDigit
  rw [read?, Text.strip_eq_self wide.isSpace_eq_false]
  -- The digits before the point and those behind it become ASCII digits, and all else is ASCII already.
  obtain ⟨negative, whole, fraction, rfl, nonEmpty, wholeDigits, fractionDigits⟩ := h
  obtain ⟨ascii, ha, sameLength, asciiDigits⟩ := asciiForm?_digits wholeDigits
  obtain ⟨behind, hb, sameBehind, behindDigits⟩ := asciiForm?_digits fractionDigits
  have form : asciiForm? (written negative whole fraction) = some (written negative ascii behind) := by
    have digits : asciiForm? (whole ++ pointAnd fraction) = some (ascii ++ pointAnd behind) := by
      rw [asciiForm?_append, ha, asciiForm?_pointAnd hb sameBehind]
      rfl
    have sign : asciiForm? (if negative then ['-'] else []) = some (if negative then ['-'] else []) := by
      cases negative <;> decide
    rw [written, asciiForm?_append, sign, digits]
    rfl
  have alsoSome : ascii ≠ [] := by
    intro none
    rw [none] at sameLength
    exact nonEmpty (List.length_eq_zero_iff.1 sameLength.symm)
  have notLonger : ascii.length + behind.length ≤ 1000000000000000000 := by
    have := length_pointAnd fraction
    rw [written, List.length_append, List.length_append] at short
    omega
  rw [form, Option.bind_eq_bind, Option.bind_some, splitSign_written negative alsoSome asciiDigits]
  exact readUnsigned?_isSome negative alsoSome asciiDigits behindDigits notLonger

end FixedExtract.Decimal
