import FixedExtract.Proofs.Decimal.Written
/-!
# How decimals are spelled

Once its digits are written in ASCII, a text that denotes a decimal is a sign, the digits before the point and those
behind it, and an exponent. The text says what each of these is, and they say which decimal it is: none but one that is
within the limits.
-/

namespace FixedExtract.Decimal

/-- A sign: a minus, a plus, or none. -/
def SignMark (mark : Text) (negative : Bool) : Prop :=
  mark = ['-'] ∧ negative = true ∨ (mark = ['+'] ∨ mark = []) ∧ negative = false

/-- An exponent: a letter, a sign and digits, or nothing. -/
inductive ExponentMark : Text → ℤ → Prop
  | absent : ExponentMark [] 0
  | present {letter : Char} {sign digits : Text} {negative : Bool} (hl : letter = 'e' ∨ letter = 'E')
    (hs : SignMark sign negative) (nonEmpty : digits ≠ []) (ascii : ∀ c ∈ digits, Text.isAsciiDigit c = true) :
    ExponentMark (letter :: (sign ++ digits)) (if negative then -(digitsValue digits : ℤ) else digitsValue digits)

/-- The text spells a number with these digits before the point and behind it, and this exponent. -/
structure Spells (text : Text) (negative : Bool) (whole fraction : Text) (exponent : ℤ) : Prop where
  ascii : ∀ c ∈ whole ++ fraction, Text.isAsciiDigit c = true
  nonEmpty : whole ++ fraction ≠ []
  parts : ∃ sign point mark, SignMark sign negative ∧ (point = ['.'] ∨ point = [] ∧ fraction = []) ∧
    ExponentMark mark exponent ∧
    asciiForm? (Text.strip text) = some (sign ++ (whole ++ (point ++ (fraction ++ mark))))

/-- The decimal that is spelled so. -/
def spelled (negative : Bool) (whole fraction : Text) (exponent : ℤ) : Decimal :=
  ⟨negative, digitsValue (whole ++ fraction), exponent - fraction.length⟩

/-! ## Signs and exponents -/

theorem splitSign_of_signMark {mark rest : Text} {negative : Bool} (h : SignMark mark negative)
    (unsigned : ∀ c ∈ rest.head?, c ≠ '-' ∧ c ≠ '+') : splitSign (mark ++ rest) = (negative, rest) := by
  rcases h with ⟨rfl, rfl⟩ | ⟨rfl | rfl, rfl⟩
  · rfl
  · rfl
  · cases rest with
    | nil => rfl
    | cons c rest =>
      obtain ⟨noMinus, noPlus⟩ := unsigned c rfl
      show splitSign (c :: rest) = (false, c :: rest)
      unfold splitSign
      split
      · next same => exact absurd (List.cons.inj same).1 noMinus
      · next same => exact absurd (List.cons.inj same).1 noPlus
      · rfl

theorem exists_signMark (text : Text) :
    ∃ mark, SignMark mark (splitSign text).1 ∧ text = mark ++ (splitSign text).2 := by
  unfold splitSign
  split
  · exact ⟨['-'], .inl ⟨rfl, rfl⟩, rfl⟩
  · exact ⟨['+'], .inr ⟨.inl rfl, rfl⟩, rfl⟩
  · exact ⟨[], .inr ⟨.inr rfl, rfl⟩, rfl⟩

/-- A digit is no sign. -/
theorem unsigned_of_digits {digits : Text} (ascii : ∀ c ∈ digits, Text.isAsciiDigit c = true) :
    ∀ c ∈ digits.head?, c ≠ '-' ∧ c ≠ '+' := by
  intro c hc
  have digit := ascii c (List.mem_of_mem_head? hc)
  constructor
  · rintro rfl
    exact absurd digit (by decide)
  · rintro rfl
    exact absurd digit (by decide)

theorem readExponent?_eq_some_iff {text : Text} {exponent : ℤ} :
    readExponent? text = some exponent ↔ ExponentMark text exponent := by
  constructor
  · intro h
    unfold readExponent? at h
    split at h
    · cases h
      exact .absent
    · next letter rest =>
      split at h
      · next hl =>
        obtain ⟨sign, hs, same⟩ := exists_signMark rest
        dsimp only at h
        split at h
        · cases h
        · next digits =>
          rw [Bool.or_eq_true, not_or, Bool.not_eq_true, Bool.not_eq_true, Bool.not_eq_false', List.all_eq_true,
            List.isEmpty_eq_false_iff] at digits
          cases h
          have mark := ExponentMark.present hl hs digits.1 digits.2
          rwa [← same] at mark
      · cases h
  · intro h
    cases h with
    | absent => rfl
    | present hl hs nonEmpty ascii =>
      rw [readExponent?, if_pos hl, splitSign_of_signMark hs (unsigned_of_digits ascii)]
      dsimp only
      rw [if_neg]
      rw [Bool.or_eq_true, not_or, Bool.not_eq_true, Bool.not_eq_true, Bool.not_eq_false', List.all_eq_true,
        List.isEmpty_eq_false_iff]
      exact ⟨nonEmpty, ascii⟩

/-- No digit and no point stands where an exponent starts. -/
theorem ExponentMark.front {mark : Text} {exponent : ℤ} (h : ExponentMark mark exponent) :
    ∀ c ∈ mark.head?, Text.isAsciiDigit c = false ∧ c ≠ '.' ∧ c ≠ '-' ∧ c ≠ '+' := by
  intro c hc
  cases h with
  | absent => cases hc
  | present hl _ _ _ =>
    cases hc
    rcases hl with rfl | rfl <;> decide

/-! ## What a text spells is read -/

section
variable {text : Text} {negative : Bool} {whole fraction : Text} {exponent : ℤ} {d : Decimal}

/-- What stands behind the whole part: a point and a fraction, or neither, and an exponent. -/
theorem readUnsigned?_of_parts {point mark : Text} (ascii : ∀ c ∈ whole ++ fraction, Text.isAsciiDigit c = true)
    (nonEmpty : whole ++ fraction ≠ []) (hp : point = ['.'] ∨ point = [] ∧ fraction = [])
    (hm : ExponentMark mark exponent) :
    readUnsigned? negative (whole ++ (point ++ (fraction ++ mark))) =
      if withinLimits (spelled negative whole fraction exponent) then some (spelled negative whole fraction exponent)
      else none := by
  have wholeDigits : ∀ c ∈ whole, Text.isAsciiDigit c = true := fun c hc => ascii c (List.mem_append_left _ hc)
  have fractionDigits : ∀ c ∈ fraction, Text.isAsciiDigit c = true := fun c hc => ascii c (List.mem_append_right _ hc)
  have ends : ∀ c ∈ (point ++ (fraction ++ mark)).head?, Text.isAsciiDigit c = false := by
    rcases hp with rfl | ⟨rfl, rfl⟩
    · intro c hc
      cases hc
      decide
    · exact fun c hc => (hm.front c hc).1
  obtain ⟨taken, dropped⟩ := span_digits wholeDigits ends
  have filled : (whole.isEmpty && fraction.isEmpty) = false := by
    rw [Bool.and_eq_false_iff, List.isEmpty_eq_false_iff, List.isEmpty_eq_false_iff, ← not_and_or]
    rintro ⟨rfl, rfl⟩
    exact nonEmpty rfl
  have exponents := readExponent?_eq_some_iff.2 hm
  unfold readUnsigned?
  rw [taken, dropped]
  rcases hp with rfl | ⟨rfl, rfl⟩
  · -- Behind the point the digits end where the exponent starts.
    obtain ⟨taken, dropped⟩ := span_digits fractionDigits fun c hc => (hm.front c hc).1
    simp only [List.singleton_append, taken, dropped, filled, exponents]
    rfl
  · -- Without a point there is no fraction, and what comes next is the exponent.
    have noPoint : ∀ rest, mark ≠ '.' :: rest := by
      rintro rest rfl
      exact (hm.front '.' rfl).2.1 rfl
    simp only [List.nil_append]
    rw [if_neg (by rw [filled]; decide), exponents]
    rfl

/-- The parts of a text say which decimal it denotes. -/
theorem Spells.read?_eq (h : Spells text negative whole fraction exponent) :
    read? text =
      if withinLimits (spelled negative whole fraction exponent) then some (spelled negative whole fraction exponent)
      else none := by
  obtain ⟨sign, point, mark, hs, hp, hm, form⟩ := h.parts
  -- A digit, the point or the letter of the exponent comes first, and none of these is a sign.
  have unsigned : ∀ c ∈ (whole ++ (point ++ (fraction ++ mark))).head?, c ≠ '-' ∧ c ≠ '+' := by
    rcases hp with rfl | ⟨rfl, rfl⟩
    · cases whole with
      | nil =>
        intro c hc
        cases hc
        decide
      | cons first rest =>
        intro c hc
        exact unsigned_of_digits h.ascii c hc
    · cases whole with
      | nil => exact fun c hc => (hm.front c hc).2.2
      | cons first rest => exact fun c hc => unsigned_of_digits h.ascii c hc
  rw [read?, form, Option.bind_eq_bind, Option.bind_some, splitSign_of_signMark hs unsigned]
  exact readUnsigned?_of_parts h.ascii h.nonEmpty hp hm

/-! ## What is read is spelled -/

theorem exists_parts (h : readUnsigned? negative text = some d) :
    ∃ whole point fraction mark exponent, text = whole ++ (point ++ (fraction ++ mark)) ∧
      (∀ c ∈ whole ++ fraction, Text.isAsciiDigit c = true) ∧ whole ++ fraction ≠ [] ∧
      (point = ['.'] ∨ point = [] ∧ fraction = []) ∧ ExponentMark mark exponent := by
  have run : ∀ {text : Text}, ∀ c ∈ text.takeWhile Text.isAsciiDigit, Text.isAsciiDigit c = true :=
    fun c hc => List.mem_takeWhile_imp hc
  have whole := (List.takeWhile_append_dropWhile (p := Text.isAsciiDigit) (l := text)).symm
  unfold readUnsigned? at h
  dsimp only at h
  split at h
  · next rest behind =>
    split at h
    · cases h
    · next filled =>
      obtain ⟨exponent, he, -⟩ := Option.bind_eq_some_iff.1 h
      rw [behind] at whole
      refine ⟨text.takeWhile Text.isAsciiDigit, ['.'], rest.takeWhile Text.isAsciiDigit,
        rest.dropWhile Text.isAsciiDigit, exponent, ?_, ?_, ?_, .inl rfl, readExponent?_eq_some_iff.1 he⟩
      · rw [List.takeWhile_append_dropWhile]
        exact whole
      · exact fun c hc => (List.mem_append.1 hc).elim (run c) (run c)
      · intro none
        obtain ⟨noWhole, noFraction⟩ := List.append_eq_nil_iff.1 none
        rw [noWhole, noFraction] at filled
        exact filled rfl
  · split at h
    · cases h
    · next filled =>
      obtain ⟨exponent, he, -⟩ := Option.bind_eq_some_iff.1 h
      refine ⟨text.takeWhile Text.isAsciiDigit, [], [], text.dropWhile Text.isAsciiDigit, exponent, whole, ?_, ?_,
        .inr ⟨rfl, rfl⟩, readExponent?_eq_some_iff.1 he⟩
      · rw [List.append_nil]
        exact run
      · intro none
        rw [List.append_nil] at none
        rw [none] at filled
        exact filled rfl

/-- If a text of this form denotes a decimal, it is the one that is spelled. -/
theorem Spells.eq_of_read? (h : Spells text negative whole fraction exponent) (read : read? text = some d) :
    d = spelled negative whole fraction exponent := by
  rw [h.read?_eq] at read
  split at read
  · exact (Option.some.inj read).symm
  · cases read

/-- A text that denotes a decimal has such parts. -/
theorem exists_spells (h : read? text = some d) :
    ∃ negative whole fraction exponent, Spells text negative whole fraction exponent := by
  obtain ⟨form, hf, h⟩ := Option.bind_eq_some_iff.1 h
  have unsigned : readUnsigned? (splitSign form).1 (splitSign form).2 = some d := h
  obtain ⟨sign, hs, same⟩ := exists_signMark form
  obtain ⟨whole, point, fraction, mark, exponent, rest, ascii, nonEmpty, hp, hm⟩ := exists_parts unsigned
  rw [rest] at same
  exact ⟨_, whole, fraction, exponent, ascii, nonEmpty, sign, point, mark, hs, hp, hm, same ▸ hf⟩

end

end FixedExtract.Decimal
