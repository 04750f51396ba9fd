import FixedExtract.Calendar.Pattern
import FixedExtract.Proofs.Calendar.Digits
/-!
# Fields of a fixed width

Seven fields are written as digits of a number that the field fixes. The shape of a pattern asks for just these
digits. Reading is less strict: a number may have one digit only, and a fraction of a second up to six. So it
takes a piece of some length off the front of a text, and tries the full width first where the digits are within
the bounds of the field.
-/

namespace FixedExtract

theorem Date.isReal_iff {d : Date} : d.isReal = true ↔ 1 ≤ d.year ∧ d.year ≤ 9999 ∧ 1 ≤ d.month ∧
    d.month ≤ 12 ∧ 1 ≤ d.day ∧ d.day ≤ daysInMonth d.year d.month := by
  simp [isReal, and_assoc]

theorem TimeOfDay.isReal_iff {t : TimeOfDay} : t.isReal = true ↔ t.hour < 24 ∧ t.minute < 60 ∧
    t.second < 60 ∧ t.microsecond < 1000000 := by
  simp [isReal, and_assoc]

/-- A month has 28 to 31 days. -/
theorem Date.daysInMonth_bounds (year month : Nat) :
    28 ≤ daysInMonth year month ∧ daysInMonth year month ≤ 31 := by
  unfold daysInMonth
  split_ifs <;> decide

end FixedExtract

namespace FixedExtract.DatePattern
open Decimal (digitsValue digitsValue_lt)

/-- The fields that are written as a fixed number of digits. -/
def fixedFields : List Field :=
  [.year, .number .month true, .number .day true, .number .hour true, .number .minute true,
   .number .second true, .millisecond]

namespace Field

/-- How many digits the field is written with. -/
def width : Field → Nat
  | .year => 4
  | .millisecond => 3
  | _ => 2

/-- The fewest characters that reading the field takes. -/
def least : Field → Nat
  | .year => 4
  | _ => 1

/-- The most characters that reading the field takes. -/
def most : Field → Nat
  | .year => 4
  | .millisecond => 6
  | _ => 2

/-- What digits stand for in the field: a fraction of a second counts millionths. -/
def value (digits : Text) : Field → Nat
  | .millisecond => digitsValue digits * 10 ^ (6 - digits.length)
  | _ => digitsValue digits

/-- Does reading take the number for the field? -/
def Takes (n : Nat) : Field → Prop
  | .number unit _ => unit.bounds.1 ≤ n ∧ n ≤ unit.bounds.2
  | _ => True

instance (n : Nat) (f : Field) : Decidable (f.Takes n) :=
  match f with
  | .number unit _ => inferInstanceAs (Decidable (unit.bounds.1 ≤ n ∧ n ≤ unit.bounds.2))
  | .year | .yearOfCentury | .monthName | .shortMonthName | .millisecond | .halfDay => .isTrue trivial

end Field

variable {f g : Field} {n : Nat} {text rest piece : Text}

theorem fixedFields_cases (h : f ∈ fixedFields) :
    f = .year ∨ (∃ unit, unit ≠ .clockHour ∧ f = .number unit true) ∨ f = .millisecond := by
  simp only [fixedFields, List.mem_cons, List.not_mem_nil, or_false] at h
  rcases h with rfl | rfl | rfl | rfl | rfl | rfl | rfl
  all_goals simp

/-- The shape asks a field for its digits. -/
theorem admits_iff (hf : f ∈ fixedFields) : f.admits text = true ↔ IsDigits f.width text := by
  have digits : ∀ width, (decide (text.length = width) && text.all Text.isAsciiDigit) = true ↔
      IsDigits width text := by
    intro width
    rw [Bool.and_eq_true, decide_eq_true_eq, List.all_eq_true]
    exact ⟨fun h => ⟨h.1, h.2⟩, fun h => ⟨h.length, h.ascii⟩⟩
  rcases fixedFields_cases hf with rfl | ⟨unit, -, rfl⟩ | rfl
  · exact digits 4
  · have padded : (Field.number unit true).admits text =
        (decide (text.length = 2) && text.all Text.isAsciiDigit) := by simp [Field.admits]
    rw [padded]
    exact digits 2
  · exact digits 3

/-! ## Digits -/

theorem digit?_of_isAsciiDigit {c : Char} (ascii : Bool) (h : Text.isAsciiDigit c = true) :
    digit? ascii c = some (Text.asciiDigitValue c) := by
  rw [digit?, h, Bool.not_true, Bool.and_false, if_neg Bool.false_ne_true]
  exact Text.decimalValue?_of_isAsciiDigit h

theorem filterMap_digit?_of_ascii (h : ∀ c ∈ text, Text.isAsciiDigit c = true) :
    text.filterMap (digit? false) = text.map Text.asciiDigitValue := by
  rw [← List.filterMap_eq_map]
  exact List.filterMap_congr fun c hc => digit?_of_isAsciiDigit false (h c hc)

theorem asciiDigitValue_le {c : Char} (h : Text.isAsciiDigit c = true) : Text.asciiDigitValue c ≤ 9 := by
  have := Text.isAsciiDigit_eq_true_iff.1 h
  rw [Text.asciiDigitValue]
  omega

theorem digitsValue_singleton (a : Char) : digitsValue [a] = Text.asciiDigitValue a :=
  Nat.zero_add _

theorem digitsValue_pair (a b : Char) :
    digitsValue [a, b] = Text.asciiDigitValue a * 10 + Text.asciiDigitValue b := by
  have first : digitsValue [a] = Text.asciiDigitValue a := digitsValue_singleton a
  have both := digitsValue_concat [a] b
  rwa [first] at both

/-! ## Readings take a piece off the front -/

/-- A piece of a text that reading takes for a field, and the number it takes it for. -/
structure Field.Piece (f : Field) (piece : Text) (n : Nat) : Prop where
  least : f.least ≤ piece.length
  most : piece.length ≤ f.most
  value : (∀ c ∈ piece, Text.isAsciiDigit c = true) → n = f.value piece ∧ f.Takes n

theorem mem_digitsReading {count : Nat} (h : (n, rest) ∈ digitsReading count text) :
    ∃ piece, text = piece ++ rest ∧ piece.length = count ∧
      ((∀ c ∈ piece, Text.isAsciiDigit c = true) → n = digitsValue piece) := by
  rw [digitsReading] at h
  split at h
  · next all =>
    obtain ⟨rfl, rfl⟩ := Prod.mk.inj (List.mem_singleton.1 h)
    have atLeast := List.length_filterMap_le (digit? false) (text.take count)
    refine ⟨text.take count, (List.take_append_drop count text).symm, ?_, fun ascii => ?_⟩
    · rw [all] at atLeast
      exact Nat.le_antisymm (List.length_take_le count text) atLeast
    · rw [filterMap_digit?_of_ascii ascii]
      rfl
  · simp at h

theorem mem_numberReadings {low high : Nat} (wide : 9 ≤ high)
    (h : (n, rest) ∈ numberReadings low high text) :
    ∃ piece, text = piece ++ rest ∧ 1 ≤ piece.length ∧ piece.length ≤ 2 ∧
      ((∀ c ∈ piece, Text.isAsciiDigit c = true) → n = digitsValue piece ∧ low ≤ n ∧ n ≤ high) := by
  unfold numberReadings at h
  rw [List.mem_append] at h
  -- Two digits are read, or one.
  rcases h with double | single
  · split at double
    · next a b behind =>
      split at double
      · next tens ha =>
        dsimp only at double
        split at double
        · next ones hb =>
          split at double
          · next within =>
            obtain ⟨rfl, rfl⟩ := Prod.mk.inj (List.mem_singleton.1 double)
            refine ⟨[a, b], rfl, by simp, by simp, fun ascii => ⟨?_, within⟩⟩
            rw [digit?_of_isAsciiDigit _ (ascii a (by simp))] at ha
            rw [digit?_of_isAsciiDigit _ (ascii b (by simp))] at hb
            cases ha
            cases hb
            exact (digitsValue_pair a b).symm
          · simp at double
        · simp at double
      · simp at double
    · simp at double
  · split at single
    · next a behind =>
      split at single
      · next value ha =>
        split at single
        · next above =>
          obtain ⟨rfl, rfl⟩ := Prod.mk.inj (List.mem_singleton.1 single)
          refine ⟨[a], rfl, by simp, by simp, fun ascii => ?_⟩
          have digit := ascii a (by simp)
          rw [digit?_of_isAsciiDigit _ digit] at ha
          cases ha
          have small := asciiDigitValue_le digit
          refine ⟨?_, above, by omega⟩
          exact (digitsValue_singleton a).symm
        · simp at single
      · simp at single
    · simp at single

theorem mem_fractionReadings (h : (n, rest) ∈ fractionReadings text) :
    ∃ piece, text = piece ++ rest ∧ 1 ≤ piece.length ∧ piece.length ≤ 6 ∧
      n = digitsValue piece * 10 ^ (6 - piece.length) := by
  rw [fractionReadings] at h
  obtain ⟨count, hc, same⟩ := List.mem_map.1 h
  obtain ⟨rfl, rfl⟩ := Prod.mk.inj same
  rw [List.mem_reverse, List.mem_range] at hc
  -- The digits at the front are at most six, and a part of them is taken.
  have front : (text.take 6).takeWhile Text.isAsciiDigit <+: text :=
    (List.takeWhile_prefix _).trans (List.take_prefix 6 text)
  have six := (List.takeWhile_prefix (p := Text.isAsciiDigit) (l := text.take 6)).length_le
  rw [List.length_take] at six
  have taken : ((text.take 6).takeWhile Text.isAsciiDigit).take (count + 1) = text.take (count + 1) := by
    have cut := congrArg (List.take (count + 1)) (List.prefix_iff_eq_take.1 front)
    rwa [List.take_take, Nat.min_eq_left hc] at cut
  have length : (text.take (count + 1)).length = count + 1 := by
    rw [List.length_take]
    omega
  refine ⟨text.take (count + 1), (List.take_append_drop (count + 1) text).symm, by omega, by omega, ?_⟩
  have exponent : 5 - count = 6 - (count + 1) := by omega
  rw [taken, length, ← exponent]
  rfl

/-- A day may also have a space for its first digit. -/
theorem exists_readings_number (unit : Unit) (padded : Bool) (text : Text) :
    ∃ spaced, (Field.number unit padded).readings text =
        numberReadings unit.bounds.1 unit.bounds.2 text ++ spaced ∧
      ∀ reading ∈ spaced, ∃ c, text = [' ', c] ++ reading.2 := by
  simp only [Field.readings]
  split
  · next c behind =>
    split
    · next value digit =>
      split
      · exact ⟨[], (List.append_nil _).symm, by simp⟩
      · exact ⟨[(value, behind)], rfl, by simp⟩
    · exact ⟨[], (List.append_nil _).symm, by simp⟩
  · exact ⟨[], (List.append_nil _).symm, by simp⟩

/-- Reading a field takes a piece of the text that the field may be written with. -/
theorem exists_piece_of_mem_readings (hf : f ∈ fixedFields) (h : (n, rest) ∈ f.readings text) :
    ∃ piece, text = piece ++ rest ∧ f.Piece piece n := by
  rcases fixedFields_cases hf with rfl | ⟨unit, -, rfl⟩ | rfl
  · obtain ⟨piece, split, length, value⟩ := mem_digitsReading h
    exact ⟨piece, split, ⟨length.ge, length.le, fun ascii => ⟨value ascii, trivial⟩⟩⟩
  · have wide : 9 ≤ unit.bounds.2 := by cases unit <;> decide
    obtain ⟨spaced, split, spaceFirst⟩ := exists_readings_number unit true text
    rw [split, List.mem_append] at h
    rcases h with number | withSpace
    · obtain ⟨piece, split, least, most, value⟩ := mem_numberReadings wide number
      exact ⟨piece, split, ⟨least, most, value⟩⟩
    · obtain ⟨c, front⟩ := spaceFirst _ withSpace
      refine ⟨[' ', c], front, ⟨by simp [Field.least], by simp [Field.most], fun ascii => ?_⟩⟩
      exact absurd (ascii ' ' (by simp)) (by decide)
  · obtain ⟨piece, split, least, most, value⟩ := mem_fractionReadings h
    exact ⟨piece, split, ⟨least, most, fun _ => ⟨value, trivial⟩⟩⟩

/-! ## The full width comes first -/

/-- The readings of a number whose first digit may stand alone: before the reading of that digit there is at
most the one that takes the next digit too. -/
theorem exists_numberReadings {low high : Nat} {a : Char} (ascii : ∀ c ∈ a :: rest, Text.isAsciiDigit c = true)
    (alone : low ≤ digitsValue [a]) :
    ∃ double, numberReadings low high (a :: rest) = double ++ [(digitsValue [a], rest)] ∧
      ∀ reading ∈ double, ∃ b, rest = b :: reading.2 ∧
        low ≤ digitsValue [a, b] ∧ digitsValue [a, b] ≤ high := by
  have ones := fun isAscii => digit?_of_isAsciiDigit isAscii (ascii a List.mem_cons_self)
  rw [digitsValue_singleton] at alone ⊢
  cases rest with
  | nil =>
    unfold numberReadings
    simp only [ones, if_pos alone]
    exact ⟨[], rfl, by simp⟩
  | cons b rest =>
    have next := fun isAscii => digit?_of_isAsciiDigit isAscii (ascii b (by simp))
    unfold numberReadings
    simp only [ones, next, if_pos alone]
    refine ⟨_, rfl, ?_⟩
    intro reading taken
    split at taken
    · next within =>
      rw [List.mem_singleton.1 taken]
      exact ⟨b, rfl, by rwa [digitsValue_pair]⟩
    · simp at taken

/-- Without a space in front, the readings of a number are those of its digits. -/
theorem readings_number {c : Char} (unit : Unit) (padded : Bool) (ascii : Text.isAsciiDigit c = true) :
    (Field.number unit padded).readings (c :: rest) =
      numberReadings unit.bounds.1 unit.bounds.2 (c :: rest) := by
  obtain ⟨spaced, split, spaceFirst⟩ := exists_readings_number unit padded (c :: rest)
  cases spaced with
  | nil => rw [split, List.append_nil]
  | cons reading spaced =>
    obtain ⟨_, front⟩ := spaceFirst reading List.mem_cons_self
    rw [(List.cons.inj front).1] at ascii
    exact absurd ascii (by decide)

theorem numberReadings_eq_cons {low high : Nat} (rest : Text) (digits : IsDigits 2 piece)
    (within : low ≤ digitsValue piece ∧ digitsValue piece ≤ high) :
    ∃ others, numberReadings low high (piece ++ rest) = (digitsValue piece, rest) :: others := by
  obtain ⟨a, b, rfl⟩ := List.length_eq_two.1 digits.length
  have tens := digit?_of_isAsciiDigit true (digits.ascii a (by simp))
  have ones := fun ascii => digit?_of_isAsciiDigit ascii (digits.ascii b (by simp))
  rw [digitsValue_pair] at within ⊢
  unfold numberReadings
  simp only [List.cons_append, List.nil_append, tens, ones, if_pos within]
  exact ⟨_, rfl⟩

/-- A fraction of a second may take any number of the digits in front, up to six, and takes more before fewer. -/
theorem exists_fractionReadings (ascii : ∀ c ∈ text, Text.isAsciiDigit c = true) {m : Nat} (six : m < 6)
    (within : m < text.length) :
    ∃ before n after, fractionReadings text = before ++ (n, text.drop (m + 1)) :: after ∧
      ∀ reading ∈ before, ∃ i, m < i ∧ i < 6 ∧ i < text.length ∧
        reading.2 = text.drop (i + 1) := by
  have digits : (text.take 6).takeWhile Text.isAsciiDigit = text.take 6 := by
    rw [List.takeWhile_eq_self_iff]
    exact fun c hc => ascii c (List.mem_of_mem_take hc)
  have count : m < (text.take 6).length := by
    rw [List.length_take]
    omega
  -- The counts descend, so those in front of a count are greater.
  have sorted : (List.range (text.take 6).length).reverse.Pairwise (· > ·) :=
    List.pairwise_reverse.2 List.pairwise_lt_range
  obtain ⟨before, after, split⟩ :=
    List.append_of_mem (List.mem_reverse.2 (List.mem_range.2 count))
  have below : ∀ i ∈ before, i < 6 ∧ i < text.length := by
    intro i hi
    have inRange : i ∈ (List.range (text.take 6).length).reverse := split ▸ List.mem_append_left _ hi
    rw [List.mem_reverse, List.mem_range, List.length_take] at inRange
    omega
  rw [split, List.pairwise_append] at sorted
  rw [fractionReadings, digits, split, List.map_append, List.map_cons]
  refine ⟨_, _, _, rfl, ?_⟩
  intro reading taken
  obtain ⟨i, hi, rfl⟩ := List.mem_map.1 taken
  exact ⟨i, sorted.2.2 i hi m List.mem_cons_self, (below i hi).1, (below i hi).2, rfl⟩

/-- The digits of a field are its first reading where its bounds let them. A fraction of a second has to be
the last field for that, as it takes more digits than it is written with. -/
theorem readings_eq_cons (rest : Text) (hf : f ∈ fixedFields) (digits : IsDigits f.width piece)
    (takes : f.Takes (f.value piece)) (last : f = .millisecond → rest = []) :
    ∃ others, f.readings (piece ++ rest) = (f.value piece, rest) :: others := by
  rcases fixedFields_cases hf with rfl | ⟨unit, -, rfl⟩ | rfl
  · refine ⟨[], ?_⟩
    have values := filterMap_digit?_of_ascii digits.ascii
    have length : piece.length = 4 := digits.length
    rw [Field.readings, digitsReading, List.take_left' length, List.drop_left' length, values,
      List.length_map, length]
    rfl
  · obtain ⟨others, full⟩ := numberReadings_eq_cons rest digits takes
    obtain ⟨spaced, split, -⟩ := exists_readings_number unit true (piece ++ rest)
    rw [split, full]
    exact ⟨others ++ spaced, rfl⟩
  · rw [last rfl, List.append_nil]
    have length : piece.length = 3 := digits.length
    have digitsTaken : (piece.take 6).takeWhile Text.isAsciiDigit = piece := by
      rw [List.take_of_length_le (by omega), List.takeWhile_eq_self_iff]
      exact digits.ascii
    have counts : (List.range 3).reverse = [2, 1, 0] := by decide
    rw [Field.readings, fractionReadings, digitsTaken, length, counts, List.map_cons,
      List.take_of_length_le length.le, List.drop_of_length_le length.le, Field.value, length]
    exact ⟨_, rfl⟩

/-! ## What fields put into a moment -/

/-- What a moment has for a field. -/
def Field.get (m : Moment) : Field → Nat
  | .year | .yearOfCentury => m.date.year
  | .monthName | .shortMonthName | .number .month _ => m.date.month
  | .number .day _ => m.date.day
  | .number .hour _ | .number .clockHour _ | .halfDay => m.time.hour
  | .number .minute _ => m.time.minute
  | .number .second _ => m.time.second
  | .millisecond => m.time.microsecond

/-- Different fields that are written as a fixed number of digits. -/
structure AreFixed (fields : List Field) : Prop where
  fixed : ∀ f ∈ fields, f ∈ fixedFields
  distinct : fields.Nodup

/-- The values of fields make a moment of the calendar. -/
structure MakeMoment (values : List (Field × Nat)) : Prop where
  date : (momentOf values).date.isReal = true
  time : (momentOf values).time.isReal = true

/-- The moment that the values of fields are put into. -/
def earliest : Moment := ⟨⟨1900, 1, 1⟩, ⟨0, 0, 0, 0⟩, none⟩

theorem get_put (hf : f ∈ fixedFields) (hg : g ∈ fixedFields) (half : Nat) (m : Moment) :
    g.get (Field.put half m (f, n)) = if g = f then n else g.get m := by
  simp only [fixedFields, List.mem_cons, List.not_mem_nil, or_false] at hf hg
  rcases hf with rfl | rfl | rfl | rfl | rfl | rfl | rfl
  all_goals rcases hg with rfl | rfl | rfl | rfl | rfl | rfl | rfl
  all_goals rfl

section
variable {values : List (Field × Nat)}

theorem get_foldl_put_of_not_mem (fixed : ∀ f ∈ values.map Prod.fst, f ∈ fixedFields) (hg : g ∈ fixedFields)
    (absent : g ∉ values.map Prod.fst) (half : Nat) (m : Moment) :
    g.get (values.foldl (Field.put half) m) = g.get m := by
  induction values generalizing m with
  | nil => rfl
  | cons value values ih =>
    rw [List.map_cons, List.mem_cons, not_or] at absent
    have later := ih (fun f hf => fixed f (List.mem_cons_of_mem _ hf)) absent.2 (Field.put half m value)
    rw [List.foldl_cons, later]
    exact (get_put (fixed value.1 List.mem_cons_self) hg half m).trans (if_neg absent.1)

theorem get_foldl_put_of_mem (h : AreFixed (values.map Prod.fst)) (mem : (g, n) ∈ values) (half : Nat)
    (m : Moment) : g.get (values.foldl (Field.put half) m) = n := by
  induction values generalizing m with
  | nil => cases mem
  | cons value values ih =>
    have fixed := fun f hf => h.fixed f (List.mem_cons_of_mem value.1 hf)
    have distinct := List.nodup_cons.1 h.distinct
    rw [List.foldl_cons]
    rcases List.mem_cons.1 mem with rfl | later
    · -- The values behind the first one are those of other fields.
      have hg : g ∈ fixedFields := h.fixed g List.mem_cons_self
      rw [get_foldl_put_of_not_mem fixed hg distinct.1]
      exact (get_put hg hg half m).trans (if_pos rfl)
    · exact ih ⟨fixed, distinct.2⟩ later (Field.put half m value)

theorem get_momentOf_of_mem (h : AreFixed (values.map Prod.fst)) (mem : (f, n) ∈ values) :
    f.get (momentOf values) = n :=
  get_foldl_put_of_mem h mem _ earliest

theorem get_momentOf_of_not_mem (h : AreFixed (values.map Prod.fst)) (hf : f ∈ fixedFields)
    (absent : f ∉ values.map Prod.fst) : f.get (momentOf values) = f.get earliest :=
  get_foldl_put_of_not_mem h.fixed hf absent _ earliest

/-- What a moment of the calendar has for a field is within the bounds of reading. -/
theorem MakeMoment.takes (real : MakeMoment values) (h : AreFixed (values.map Prod.fst))
    (mem : (f, n) ∈ values) : f.Takes n := by
  have hf := h.fixed f (List.mem_map_of_mem mem)
  have date := Date.isReal_iff.1 real.date
  have time := TimeOfDay.isReal_iff.1 real.time
  have month := Date.daysInMonth_bounds (momentOf values).date.year (momentOf values).date.month
  -- Days reach 31 and seconds 61 in reading, which is never less than the calendar has.
  rw [← get_momentOf_of_mem h mem]
  simp only [fixedFields, List.mem_cons, List.not_mem_nil, or_false] at hf
  rcases hf with rfl | rfl | rfl | rfl | rfl | rfl | rfl
  all_goals simp only [Field.Takes, Field.get, Unit.bounds]
  all_goals omega

end

end FixedExtract.DatePattern
