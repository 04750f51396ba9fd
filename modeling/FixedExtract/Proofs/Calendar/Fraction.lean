import FixedExtract.Proofs.Calendar.Row
/-!
# Where a fraction of a second takes too much

A fraction of a second is written with three digits and read with up to six. So a field whose two digits are out
of its bounds may be read from one digit, while the fraction takes one more. This happens in every pattern that has
a fraction and another field in a row: there is a text whose slices are no moment, and which is read as one.

The text consists of ones, but for the first digit of one field: a 2 for the month, or a 9 where there is no date.
Every other field has a number with these digits. The longest readings that leave enough for the other fields use
the text up, since the fraction takes three digits more than it is written with.
-/

namespace FixedExtract.DatePattern
open Decimal (digitsValue)

variable {fields before after : List Field} {f : Field} {unit : Unit} {text : Text} {x : Char}
  {values : List (Field × Nat)}

/-! ## How many digits the fields take -/

/-- The fewest characters that reading the fields takes. -/
def leastTotal (fields : List Field) : Nat := (fields.map Field.least).sum

/-- The most characters that reading the fields takes. -/
def mostTotal (fields : List Field) : Nat := (fields.map Field.most).sum

theorem widths {f : Field} (hf : f ∈ fixedFields) : 1 ≤ f.least ∧ f.least ≤ f.width ∧ f.width ≤ f.most := by
  have all : ∀ f ∈ fixedFields, 1 ≤ f.least ∧ f.least ≤ f.width ∧ f.width ≤ f.most := by decide
  exact all f hf

theorem leastTotal_le (fixed : ∀ f ∈ fields, f ∈ fixedFields) : leastTotal fields ≤ totalWidth fields :=
  List.sum_le_sum fun f hf => (widths (fixed f hf)).2.1

theorem totalWidth_le (fixed : ∀ f ∈ fields, f ∈ fixedFields) : totalWidth fields ≤ mostTotal fields :=
  List.sum_le_sum fun f hf => (widths (fixed f hf)).2.2

/-- With a fraction of a second, reading may take three characters more than the fields are written with. -/
theorem totalWidth_add_three_le (fixed : ∀ f ∈ fields, f ∈ fixedFields) (fraction : .millisecond ∈ fields) :
    totalWidth fields + 3 ≤ mostTotal fields := by
  obtain ⟨before, after, rfl⟩ := List.append_of_mem fraction
  have front : totalWidth before ≤ mostTotal before :=
    totalWidth_le fun f hf => fixed f (List.mem_append_left _ hf)
  have back : totalWidth after ≤ mostTotal after :=
    totalWidth_le fun f hf => fixed f (List.mem_append_right _ (List.mem_cons_of_mem _ hf))
  have three : (Field.millisecond).width = 3 ∧ (Field.millisecond).most = 6 := ⟨rfl, rfl⟩
  rw [totalWidth, mostTotal, List.map_append, List.map_append, List.sum_append, List.sum_append,
    List.map_cons, List.map_cons, List.sum_cons, List.sum_cons]
  rw [totalWidth, mostTotal] at front back
  omega

/-- Digits that are too few are not read. -/
theorem readMarks_eq_none (fixed : ∀ f ∈ fields, f ∈ fixedFields)
    (ascii : ∀ c ∈ text, Text.isAsciiDigit c = true) (few : text.length < leastTotal fields) :
    readMarks (fields.map .field) text = none := by
  have fixedParts : ∀ part ∈ fields.map Part.field, part.IsFixed := by
    intro part hp
    obtain ⟨f, hf, rfl⟩ := List.mem_map.1 hp
    exact fixed f hf
  have noSpace : text.countP Text.isSpace = 0 := IsDigits.countP_isSpace ⟨rfl, ascii⟩
  rw [← marks_fields, Option.eq_none_iff_forall_ne_some]
  rintro ⟨values, rest⟩ read
  have bound := (length_of_readMarks fixedParts (by omega) read).1
  have total : ((fields.map Part.field).map Part.least).sum = leastTotal fields := by
    rw [List.map_map]
    rfl
  omega

/-! ## Texts of ones and another digit -/

/-- The field takes the digit, alone and behind a one. -/
structure Suits (x : Char) (f : Field) : Prop where
  alone : f.Takes (digitsValue [x])
  behindOne : f.Takes (digitsValue ['1', x])

theorem suits_one (hf : f ∈ fixedFields) : Suits '1' f := by
  have all : ∀ f ∈ fixedFields, f.Takes (digitsValue ['1']) ∧ f.Takes (digitsValue ['1', '1']) := by decide
  exact ⟨(all f hf).1, (all f hf).2⟩

theorem suits_two (hf : f ∈ fixedFields) : Suits '2' f := by
  have all : ∀ f ∈ fixedFields, f.Takes (digitsValue ['2']) ∧ f.Takes (digitsValue ['1', '2']) := by decide
  exact ⟨(all f hf).1, (all f hf).2⟩

/-- There is no month 19. -/
theorem suits_nine (hf : f ∈ fixedFields) (noMonth : f ≠ .number .month true) : Suits '9' f := by
  have all : ∀ f ∈ fixedFields, f ≠ .number .month true →
      f.Takes (digitsValue ['9']) ∧ f.Takes (digitsValue ['1', '9']) := by decide
  exact ⟨(all f hf noMonth).1, (all f hf noMonth).2⟩

/-- A digit that a text consists of together with ones, and that all fields take. -/
structure Filler (x : Char) (fields : List Field) : Prop where
  digit : Text.isAsciiDigit x = true
  notOne : x ≠ '1'
  fixed : ∀ f ∈ fields, f ∈ fixedFields
  one : ∀ f ∈ fields, Suits '1' f
  suits : ∀ f ∈ fields, Suits x f

/-- Ones and another digit. -/
def OnesAnd (x : Char) (text : Text) : Prop := ∀ c ∈ text, c = '1' ∨ c = x

theorem OnesAnd.ascii (h : OnesAnd x text) (digit : Text.isAsciiDigit x = true) :
    ∀ c ∈ text, Text.isAsciiDigit c = true := by
  intro c hc
  rcases h c hc with rfl | rfl
  · decide
  · exact digit

theorem OnesAnd.drop (h : OnesAnd x text) (count : Nat) : OnesAnd x (text.drop count) :=
  fun c hc => h c (List.mem_of_mem_drop hc)

/-- The text has enough digits for the fields, and not too many: it has just enough, or it still fits when each
other digit keeps a field from taking its second one. -/
structure Fits (x : Char) (fields : List Field) (text : Text) : Prop where
  enough : leastTotal fields ≤ text.length
  room : text.length = leastTotal fields ∨ text.length + text.count x ≤ mostTotal fields

/-- Texts of ones and another digit that fit the fields are read to their end. -/
def ReadsFitting (x : Char) (fields : List Field) : Prop :=
  ∀ text, OnesAnd x text → Fits x fields text →
    ∃ values, readMarks (fields.map .field) text = some (values, [])

theorem leastTotal_cons (f : Field) (fields : List Field) :
    leastTotal (f :: fields) = f.least + leastTotal fields := rfl

theorem mostTotal_cons (f : Field) (fields : List Field) :
    mostTotal (f :: fields) = f.most + mostTotal fields := rfl

/-- Behind a digit that is a number by itself, because the next digit is out of bounds with it or cannot be done
without, the text fits the other fields. -/
theorem Fits.behind_alone {a : Char} (fits : Fits x (.number unit true :: fields) (a :: text))
    (ones : OnesAnd x (a :: text)) (one : Suits '1' (.number unit true)) (suits : Suits x (.number unit true))
    (few : ∀ b rest, text = b :: rest → (Field.number unit true).Takes (digitsValue [a, b]) →
      rest.length < leastTotal fields) : Fits x fields text := by
  have enough := fits.enough
  have room := fits.room
  rw [leastTotal_cons, List.length_cons] at enough room
  rw [mostTotal_cons] at room
  simp only [Field.least, Field.most] at enough room
  refine ⟨by omega, ?_⟩
  rcases room with just | much
  · left
    omega
  · cases text with
    | nil =>
      rw [List.length_nil] at enough ⊢
      left
      omega
    | cons b rest =>
      rw [List.length_cons] at enough much ⊢
      by_cases takes : (Field.number unit true).Takes (digitsValue [a, b])
      · have := few b rest rfl takes
        left
        omega
      · -- Behind a one every digit is taken, so the first digit is the other one, which is used up.
        have other : a = x := by
          rcases ones a List.mem_cons_self with rfl | same
          · rcases ones b (by simp) with rfl | rfl
            · exact absurd one.behindOne takes
            · exact absurd suits.behindOne takes
          · exact same
        have fewer : (b :: rest).count x + 1 = (a :: b :: rest).count x := by
          rw [other, List.count_cons_self]
        right
        omega

section
variable (filler : Filler x fields) (reads : ReadsFitting x fields)
include filler reads

/-- A year takes four digits, whatever they are. -/
theorem readsFitting_year : ReadsFitting x (.year :: fields) := by
  rintro text ones ⟨enough, room⟩
  rw [leastTotal_cons] at enough room
  rw [mostTotal_cons] at room
  simp only [Field.least, Field.most] at enough room
  have digits : IsDigits (Field.year).width (text.take 4) := by
    refine ⟨?_, fun c hc => ones.ascii filler.digit c (List.mem_of_mem_take hc)⟩
    rw [List.length_take, Field.width]
    omega
  obtain ⟨others, first⟩ := readings_eq_cons (text.drop 4) (by decide) digits trivial (by simp)
  rw [List.take_append_drop] at first
  have fewer : (text.drop 4).count x ≤ text.count x := (List.drop_sublist 4 text).count_le x
  have fits : Fits x fields (text.drop 4) := by
    refine ⟨?_, ?_⟩ <;> rw [List.length_drop] <;> omega
  obtain ⟨values, read⟩ := reads _ (ones.drop 4) fits
  exact ⟨_, readMarks_field_of_first first read⟩

/-- A number takes two digits where they are within its bounds and leave enough, and one digit otherwise. -/
theorem readsFitting_number (one : Suits '1' (.number unit true)) (suits : Suits x (.number unit true))
    (hf : .number unit true ∈ fixedFields) : ReadsFitting x (.number unit true :: fields) := by
  rintro text ones fits
  have enough := fits.enough
  have room := fits.room
  rw [leastTotal_cons] at enough room
  rw [mostTotal_cons] at room
  simp only [Field.least, Field.most] at enough room
  have ascii := ones.ascii filler.digit
  cases text with
  | nil =>
    rw [List.length_nil] at enough
    omega
  | cons a text =>
    have onesLater : OnesAnd x text := ones.drop 1
    by_cases pair : ∃ b rest, text = b :: rest ∧ (Field.number unit true).Takes (digitsValue [a, b]) ∧
        leastTotal fields ≤ rest.length
    · -- The first reading takes both digits.
      obtain ⟨b, rest, rfl, takes, enoughLater⟩ := pair
      have digits : IsDigits 2 [a, b] := by
        refine ⟨rfl, fun c hc => ascii c ?_⟩
        rcases List.mem_cons.1 hc with rfl | hc
        · exact List.mem_cons_self
        · rw [List.mem_singleton.1 hc]
          exact List.mem_cons_of_mem _ List.mem_cons_self
      obtain ⟨others, first⟩ := readings_eq_cons rest hf digits takes (by simp)
      have fewer : rest.count x ≤ (a :: b :: rest).count x :=
        (List.drop_sublist 2 (a :: b :: rest)).count_le x
      rw [List.length_cons, List.length_cons] at enough room
      have fitsLater : Fits x fields rest := ⟨enoughLater, by omega⟩
      obtain ⟨values, read⟩ := reads _ (onesLater.drop 1) fitsLater
      exact ⟨_, readMarks_field_of_first first read⟩
    · -- A reading of both digits comes first, if there is one, but leaves too few.
      have few : ∀ b rest, text = b :: rest → (Field.number unit true).Takes (digitsValue [a, b]) →
          rest.length < leastTotal fields :=
        fun b rest split takes => Nat.lt_of_not_le fun le => pair ⟨b, rest, split, takes, le⟩
      have alone : (Field.number unit true).Takes (digitsValue [a]) := by
        rcases ones a List.mem_cons_self with rfl | rfl
        · exact one.alone
        · exact suits.alone
      obtain ⟨double, readings, doubleReading⟩ := exists_numberReadings ascii alone.1
      have split := (readings_number unit true (ascii a List.mem_cons_self)).trans readings
      have fail : ∀ reading ∈ double, readMarks (fields.map .field) reading.2 = none := by
        intro reading hr
        obtain ⟨b, behind, takes⟩ := doubleReading reading hr
        refine readMarks_eq_none filler.fixed (fun c hc => ascii c ?_) (few b reading.2 behind takes)
        rw [behind]
        exact List.mem_cons_of_mem _ (List.mem_cons_of_mem _ hc)
      obtain ⟨values, read⟩ := reads _ onesLater (fits.behind_alone ones one suits few)
      exact ⟨_, readMarks_field_of_split split fail read⟩

/-- A fraction of a second takes all digits up to the sixth that the other fields can do without. -/
theorem readsFitting_millisecond : ReadsFitting x (.millisecond :: fields) := by
  rintro text ones ⟨enough, room⟩
  rw [leastTotal_cons] at enough room
  rw [mostTotal_cons] at room
  simp only [Field.least, Field.most] at enough room
  have ascii := ones.ascii filler.digit
  -- One digit more than the fraction takes would be a seventh one, or leave too few.
  obtain ⟨count, most⟩ : ∃ count, count = min 5 (text.length - leastTotal fields - 1) := ⟨_, rfl⟩
  obtain ⟨longer, n, shorter, split, longerReading⟩ :=
    exists_fractionReadings ascii (m := count) (by omega) (by omega)
  have fail : ∀ reading ∈ longer, readMarks (fields.map .field) reading.2 = none := by
    intro reading hr
    obtain ⟨i, more, six, within, behind⟩ := longerReading reading hr
    rw [behind]
    refine readMarks_eq_none filler.fixed ((ones.drop _).ascii filler.digit) ?_
    rw [List.length_drop]
    omega
  have fewer : (text.drop (count + 1)).count x ≤ text.count x := (List.drop_sublist _ text).count_le x
  have fits : Fits x fields (text.drop (count + 1)) := by
    refine ⟨?_, ?_⟩ <;> rw [List.length_drop] <;> omega
  obtain ⟨values, read⟩ := reads _ (ones.drop _) fits
  exact ⟨_, readMarks_field_of_split split fail read⟩

end

/-- A text of ones and another digit that fits the fields is read to its end. -/
theorem readsFitting (filler : Filler x fields) : ReadsFitting x fields := by
  induction fields with
  | nil =>
    rintro text - ⟨-, room⟩
    have none : text.length = 0 := by
      simp only [leastTotal, mostTotal, List.map_nil, List.sum_nil] at room
      omega
    rw [List.length_eq_zero_iff.1 none]
    exact ⟨[], rfl⟩
  | cons f fields ih =>
    have later : Filler x fields :=
      ⟨filler.digit, filler.notOne, fun g hg => filler.fixed g (List.mem_cons_of_mem f hg),
        fun g hg => filler.one g (List.mem_cons_of_mem f hg),
        fun g hg => filler.suits g (List.mem_cons_of_mem f hg)⟩
    have hf := filler.fixed f List.mem_cons_self
    rcases fixedFields_cases hf with rfl | ⟨unit, -, rfl⟩ | rfl
    · exact readsFitting_year later (ih later)
    · exact readsFitting_number later (ih later) (filler.one _ List.mem_cons_self)
        (filler.suits _ List.mem_cons_self) hf
    · exact readsFitting_millisecond later (ih later)

/-! ## What is read there is a moment -/

/-- Reading fields takes a piece of the text for each. -/
theorem pieces_of_readMarks (fixed : ∀ f ∈ fields, f ∈ fixedFields) {rest : Text}
    (h : readMarks (fields.map .field) text = some (values, rest)) :
    values.map Prod.fst = fields ∧
      ∀ value ∈ values, ∃ piece, (∀ c ∈ piece, c ∈ text) ∧ value.1.Piece piece value.2 := by
  induction fields generalizing text values with
  | nil =>
    cases h
    exact ⟨rfl, by simp⟩
  | cons f fields ih =>
    obtain ⟨n, behind, later, reading, read, rfl⟩ := exists_of_readMarks_field h
    obtain ⟨piece, rfl, taken⟩ := exists_piece_of_mem_readings (fixed f List.mem_cons_self) reading
    obtain ⟨rfl, pieces⟩ := ih (fun g hg => fixed g (List.mem_cons_of_mem f hg)) read
    refine ⟨rfl, fun value hv => ?_⟩
    rcases List.mem_cons.1 hv with rfl | hv
    · exact ⟨piece, fun c hc => List.mem_append_left _ hc, taken⟩
    · obtain ⟨piece', inside, taken'⟩ := pieces value hv
      exact ⟨piece', fun c hc => List.mem_append_right _ (inside c hc), taken'⟩

/-- One or two digits, ones and a 2 or ones and a 9, that are no more than 61 are at most 22. -/
theorem digitsValue_small {piece : Text} (hx : x = '2' ∨ x = '9') (ones : OnesAnd x piece)
    (least : 1 ≤ piece.length) (most : piece.length ≤ 2) (bound : digitsValue piece ≤ 61) :
    digitsValue piece ≤ 22 := by
  match piece, least, most with
  | [a], _, _ =>
    rcases hx with rfl | rfl
    all_goals rcases ones a (by simp) with rfl | rfl <;> decide
  | [a, b], _, _ =>
    revert bound
    rcases hx with rfl | rfl
    all_goals rcases ones a (by simp) with rfl | rfl
    all_goals rcases ones b (by simp) with rfl | rfl <;> decide

/-- Digits without a zero are more than zero. -/
theorem digitsValue_pos {piece : Text} (hx : x = '2' ∨ x = '9') (ones : OnesAnd x piece)
    (least : 1 ≤ piece.length) : 1 ≤ digitsValue piece := by
  cases piece using List.reverseRecOn with
  | nil => simp at least
  | append_singleton piece c =>
    have last : 1 ≤ Text.asciiDigitValue c := by
      rcases ones c (by simp) with rfl | rfl
      · decide
      · rcases hx with rfl | rfl <;> decide
    rw [digitsValue_concat]
    omega

/-- What is read from ones and a 2 or a 9 is a moment: no year is zero, and no day is behind the 22nd. -/
theorem Row.makeMoment_of_onesAnd (row : Row fields) (hx : x = '2' ∨ x = '9') (ones : OnesAnd x text)
    {rest : Text} (read : readMarks (fields.map .field) text = some (values, rest)) : MakeMoment values := by
  obtain ⟨keys, pieces⟩ := pieces_of_readMarks row.fixed read
  have digit : Text.isAsciiDigit x = true := by
    rcases hx with rfl | rfl <;> decide
  -- Whatever was read was a piece of ones and the other digit.
  have piece_of : ∀ {f n}, (f, n) ∈ values → ∃ piece, OnesAnd x piece ∧ f.least ≤ piece.length ∧
      piece.length ≤ f.most ∧ (∀ c ∈ piece, Text.isAsciiDigit c = true) ∧ n = f.value piece ∧ f.Takes n := by
    intro f n hn
    obtain ⟨piece, inside, taken⟩ := pieces _ hn
    have ones' : OnesAnd x piece := fun c hc => ones c (inside c hc)
    have ascii := ones'.ascii digit
    exact ⟨piece, ones', taken.least, taken.most, ascii, taken.value ascii⟩
  have number : ∀ {unit n}, (.number unit true, n) ∈ values →
      1 ≤ n ∧ n ≤ 22 ∧ n ≤ unit.bounds.2 := by
    intro unit n hn
    obtain ⟨piece, ones', least, most, -, rfl, takes⟩ := piece_of hn
    have bound : unit.bounds.2 ≤ 61 := by cases unit <;> decide
    have small := digitsValue_small hx ones' least most (takes.2.trans bound)
    exact ⟨digitsValue_pos hx ones' least, small, takes.2⟩
  have year : ∀ y, (.year, y) ∈ values → 1 ≤ y ∧ y ≤ 9999 := by
    intro y hy
    obtain ⟨piece, ones', least, most, ascii, rfl, -⟩ := piece_of hy
    have length : IsDigits 4 piece := ⟨Nat.le_antisymm most least, ascii⟩
    exact ⟨digitsValue_pos hx ones' (Nat.le_trans (by decide) least), Nat.le_of_lt_succ length.value_lt⟩
  have fraction : ∀ s, (.millisecond, s) ∈ values → s < 1000000 := by
    intro s hs
    obtain ⟨piece, -, -, most, ascii, rfl, -⟩ := piece_of hs
    have power : 10 ^ piece.length * 10 ^ (6 - piece.length) = 1000000 := by
      have six : piece.length ≤ 6 := most
      rw [← Nat.pow_add, Nat.add_sub_cancel' six]
    calc digitsValue piece * 10 ^ (6 - piece.length)
        < 10 ^ piece.length * 10 ^ (6 - piece.length) :=
          Nat.mul_lt_mul_of_pos_right (Decimal.digitsValue_lt ascii) (Nat.pow_pos (by decide))
      _ = 1000000 := power
  refine (makeMoment_iff (keys.symm ▸ row) (fun y hy => (year y hy).2) fraction).2
    ⟨fun y hy => (year y hy).1, fun m hm => ?_, fun y m d _ _ hd => ?_, fun n hn => ?_, fun n hn => ?_,
      fun n hn => ?_⟩
  · exact ⟨(number hm).1, (number hm).2.2⟩
  · have short := Date.daysInMonth_bounds y m
    have := number hd
    omega
  · exact (number hn).2.1.trans (by decide)
  · exact (number hn).2.1.trans (by decide)
  · exact (number hn).2.1.trans (by decide)

/-! ## A text that is read from other pieces than its slices -/

theorem slices_append {front back : Text} (length : front.length = totalWidth before) :
    slices (before ++ after) (front ++ back) = slices before front ++ slices after back := by
  induction before generalizing front with
  | nil =>
    rw [List.length_eq_zero_iff.1 length]
    rfl
  | cons f before ih =>
    have total : totalWidth (f :: before) = f.width + totalWidth before := rfl
    have wide : f.width ≤ front.length := by omega
    have behind : (front.drop f.width).length = totalWidth before := by
      rw [List.length_drop]
      omega
    rw [List.cons_append, slices, slices, List.cons_append, List.take_append_of_le_length wide,
      List.drop_append_of_le_length wide, ih behind]

/-- Ones, but for the first digit of a field between others. -/
def onesBut (x : Char) (before after : List Field) : Text :=
  List.replicate (totalWidth before) '1' ++ ([x, '1'] ++ List.replicate (totalWidth after) '1')

theorem onesAnd_onesBut (x : Char) (before after : List Field) : OnesAnd x (onesBut x before after) := by
  intro c hc
  simp only [onesBut, List.mem_append, List.mem_replicate, List.mem_cons, List.not_mem_nil, or_false] at hc
  tauto

theorem length_onesBut (x : Char) (unit : Unit) (before after : List Field) :
    (onesBut x before after).length = totalWidth (before ++ .number unit true :: after) := by
  have two : (Field.number unit true).width = 2 := rfl
  simp only [onesBut, totalWidth, List.length_append, List.length_replicate, List.length_cons, List.length_nil,
    List.map_append, List.map_cons, List.sum_append, List.sum_cons, two]

theorem count_onesBut (notOne : x ≠ '1') (before after : List Field) :
    (onesBut x before after).count x = 1 := by
  simp [onesBut, List.count_append, List.count_replicate, notOne.symm]

/-- A digit that is too much for a field of two digits in front of a one, and that all fields take, makes a text
that is a date of the pattern although its slices are no moment. -/
theorem Row.isDate?_onesBut (row : Row (before ++ .number unit true :: after))
    (fraction : .millisecond ∈ before ++ .number unit true :: after) (hx : x = '2' ∨ x = '9')
    (suits : ∀ f ∈ before ++ .number unit true :: after, Suits x f) :
    isDate? (patternOf (before ++ .number unit true :: after)) (onesBut x before after) = some true := by
  have ones := onesAnd_onesBut x before after
  have length := length_onesBut x unit before after
  have filler : Filler x (before ++ .number unit true :: after) := by
    refine ⟨?_, ?_, row.fixed, fun f hf => suits_one (row.fixed f hf), suits⟩
    · rcases hx with rfl | rfl <;> decide
    · rcases hx with rfl | rfl <;> decide
  have fits : Fits x (before ++ .number unit true :: after) (onesBut x before after) := by
    refine ⟨length ▸ leastTotal_le row.fixed, .inr ?_⟩
    have three := totalWidth_add_three_le row.fixed fraction
    rw [length, count_onesBut filler.notOne]
    omega
  obtain ⟨values, read⟩ := readsFitting filler _ ones fits
  have real := row.makeMoment_of_onesAnd hx ones read
  have digits : IsDigits (totalWidth (before ++ .number unit true :: after)) (onesBut x before after) :=
    ⟨length, ones.ascii filler.digit⟩
  rw [← marks_fields] at read
  exact row.fixedWidth.isDate?_iff_read.2 ⟨⟨_, filled_fields_iff.2 ⟨digits, rfl⟩⟩, values, read, real⟩

/-- The slice of the field that has the other digit first. -/
theorem mem_slices_onesBut (x : Char) (unit : Unit) (before after : List Field) :
    (.number unit true, digitsValue [x, '1']) ∈
      slices (before ++ .number unit true :: after) (onesBut x before after) := by
  rw [onesBut, slices_append (List.length_replicate ..)]
  exact List.mem_append_right _ List.mem_cons_self

theorem exists_other_field (distinct : fields.Nodup) (fraction : .millisecond ∈ fields)
    (more : fields ≠ [.millisecond]) : ∃ f ∈ fields, f ≠ .millisecond := by
  by_contra none
  have all : ∀ f ∈ fields, f = .millisecond := by
    intro f hf
    by_contra other
    exact none ⟨f, hf, other⟩
  rw [List.eq_replicate_of_mem all, List.nodup_replicate] at distinct
  have positive := List.length_pos_of_mem fraction
  have single : fields = [.millisecond] := by
    rw [List.eq_replicate_of_mem all, Nat.le_antisymm distinct positive]
    rfl
  exact more single

/-- With a fraction of a second and another field, some date of the pattern has slices that are no moment. -/
theorem Row.exists_date_without_moment (row : Row fields) (fraction : .millisecond ∈ fields)
    (more : fields ≠ [.millisecond]) :
    ∃ text, isDate? (patternOf fields) text = some true ∧ ¬FormsMoment fields text := by
  by_cases month : .number .month true ∈ fields
  · -- The month is 21.
    obtain ⟨before, after, rfl⟩ := List.append_of_mem month
    refine ⟨onesBut '2' before after, row.isDate?_onesBut fraction (.inl rfl)
      (fun f hf => suits_two (row.fixed f hf)), fun forms => ?_⟩
    exact absurd (forms.real.month _ (mem_slices_onesBut '2' .month before after)).2 (by decide)
  · -- Without a month there is no date, so the other field is an hour, a minute or a second. It is 91.
    obtain ⟨f, hf, other⟩ := exists_other_field row.distinct fraction more
    have noDate : f ∉ dateFields := fun date => month (row.wholeDate ⟨f, date, hf⟩ _ (by decide))
    obtain ⟨unit, rfl⟩ : ∃ unit, f = .number unit true := by
      rcases fixedFields_cases (row.fixed f hf) with rfl | ⟨unit, -, same⟩ | rfl
      · exact absurd (by decide) noDate
      · exact ⟨unit, same⟩
      · exact absurd rfl other
    obtain ⟨before, after, rfl⟩ := List.append_of_mem hf
    refine ⟨onesBut '9' before after, row.isDate?_onesBut fraction (.inr rfl)
      (fun g hg => suits_nine (row.fixed g hg) fun same => month (same ▸ hg)), fun forms => ?_⟩
    have slice := mem_slices_onesBut '9' unit before after
    cases unit with
    | month => exact noDate (by decide)
    | day => exact noDate (by decide)
    | hour => exact absurd (forms.real.hour _ slice) (by decide)
    | clockHour => exact absurd (row.fixed _ hf) (by decide)
    | minute => exact absurd (forms.real.minute _ slice) (by decide)
    | second => exact absurd (forms.real.second _ slice) (by decide)

/-! ## Which patterns are read as they are written -/

/-- The pattern of fields in a row decides every text, and its dates have as many digits as the fields. They are the
texts that form a moment just when there is no fraction of a second among the fields, or nothing else. And where a
fraction stands last, a text whose slices are numbers that reading takes still is a date just when it forms a
moment. -/
theorem isDate_row_iff (row : Row fields) :
    (∀ text, isDate? (patternOf fields) text ≠ none ∧
      (isDate? (patternOf fields) text = some true → IsDigits (totalWidth fields) text)) ∧
    ((∀ text, isDate? (patternOf fields) text = some true ↔ FormsMoment fields text) ↔
      (.millisecond ∉ fields ∨ fields = [.millisecond])) ∧
    (.millisecond ∉ fields.dropLast → ∀ text, (∀ slice ∈ slices fields text, slice.1.Takes slice.2) →
      (isDate? (patternOf fields) text = some true ↔ FormsMoment fields text)) := by
  refine ⟨fun text => ⟨row.fixedWidth.isDate?_ne_none, fun date => ?_⟩, ⟨fun all => ?_, ?_⟩,
    fun last _ takes => row.isDate?_iff_of_takes last takes⟩
  · obtain ⟨values, filled⟩ := (row.fixedWidth.isDate?_iff_read.1 date).1
    exact (filled_fields_iff.1 filled).1
  · by_contra neither
    obtain ⟨fraction, more⟩ := not_or.1 neither
    obtain ⟨text, date, noMoment⟩ := row.exists_date_without_moment (not_not.1 fraction) more
    exact noMoment ((all text).1 date)
  · rintro (whole | rfl)
    · exact fun text => row.isDate?_iff_of_whole whole
    · refine fun text => row.isDate?_iff_of_takes List.not_mem_nil fun slice hs => ?_
      rw [List.mem_singleton.1 hs]
      trivial

/-- The fields of a time stamp down to the thousandth of a second. -/
def stampFields : List Field :=
  [.year, .number .month true, .number .day true, .number .hour true, .number .minute true,
   .number .second true, .millisecond]

theorem row_stampFields : Row stampFields where
  fixed := by decide
  distinct := by decide
  wholeDate := by decide

theorem isDate_row_iff_stamp : Row stampFields ∧ patternOf stampFields = "yyyyMMddHHmmssSSS".toList ∧
    (isDate? "yyyyMMddHHmmssSSS" "20240229235959999" = some true ↔
      FormsMoment stampFields "20240229235959999") ∧
    isDate? "yyyyMMddHHmmssSSS" "20240229235959999" = some true := by
  have pattern : patternOf stampFields = "yyyyMMddHHmmssSSS".toList := by decide
  have iff := (isDate_row_iff row_stampFields).2.2 (by decide) "20240229235959999".toList (by decide)
  rw [pattern] at iff
  exact ⟨row_stampFields, pattern, iff, by decide +kernel⟩

/-- The hour 24 is read as 2, and the last digits go to the fraction. -/
theorem isDate_row_hour24 : Row stampFields ∧ patternOf stampFields = "yyyyMMddHHmmssSSS".toList ∧
    isDate? "yyyyMMddHHmmssSSS" "20240101240000000" = some true ∧
    ¬FormsMoment stampFields "20240101240000000" := by
  refine ⟨row_stampFields, by decide, by decide +kernel, fun forms => ?_⟩
  exact absurd (forms.real.hour 24 (by decide)) (by decide)

end FixedExtract.DatePattern
