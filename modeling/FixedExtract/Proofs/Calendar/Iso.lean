import FixedExtract.Proofs.Calendar.Reading
/-!
# The dates of the two default patterns

`yyyy-MM-dd` accepts the texts of the dates of the calendar, and `yyyy-MM-dd HH:mm:ss` those followed by a space
and the text of a time of day in whole seconds.
-/

namespace FixedExtract.DatePattern

variable {parts : List Part} {f : Field} {c : Char} {text : Text} {values : List (Field × Nat)}

/-! ## Parts filled with numbers -/

theorem filled_nil_iff : Filled [] text values ↔ text = [] ∧ values = [] := by
  constructor
  · rintro ⟨⟩
    exact ⟨rfl, rfl⟩
  · rintro ⟨rfl, rfl⟩
    exact .nil

theorem filled_plain_iff :
    Filled (.plain c :: parts) text values ↔ ∃ rest, text = c :: rest ∧ Filled parts rest values := by
  constructor
  · intro filled
    cases filled with
    | plain filled => exact ⟨_, rfl, filled⟩
  · rintro ⟨rest, rfl, filled⟩
    exact .plain filled

/-- A field other than a fraction of a second is filled with a number with zeros in front. -/
theorem filled_field_iff (hf : f ∈ fixedFields) (whole : f ≠ .millisecond) :
    Filled (.field f :: parts) text values ↔ ∃ n < 10 ^ f.width, ∃ rest later,
      text = zeroFilled f.width n ++ rest ∧ values = (f, n) :: later ∧ Filled parts rest later := by
  have value : ∀ piece, f.value piece = Decimal.digitsValue piece := by
    rcases fixedFields_cases hf with rfl | ⟨unit, -, rfl⟩ | rfl
    · exact fun _ => rfl
    · exact fun _ => rfl
    · exact absurd rfl whole
  have positive : 0 < f.width := by cases f <;> simp [Field.width]
  constructor
  · intro filled
    cases filled with
    | @field _ piece _ rest later digits filled =>
      exact ⟨_, digits.value_lt, rest, later, congrArg (· ++ rest) (digits.eq_zeroFilled positive),
        by rw [value], filled⟩
  · rintro ⟨n, short, rest, later, rfl, rfl, filled⟩
    obtain ⟨digits, number⟩ := zeroFilled_spec short positive
    have cut := Filled.field digits filled
    rwa [value, number] at cut

theorem twoDigits_eq (n : Nat) : twoDigits n = zeroFilled 2 n := rfl

/-! ## Dates -/

def dateParts : List Part :=
  [.field .year, .plain '-', .field (.number .month true), .plain '-', .field (.number .day true)]

/-- The fields of a date. -/
def dateValues (d : Date) : List (Field × Nat) :=
  [(.year, d.year), (.number .month true, d.month), (.number .day true, d.day)]

/-- The parts of a date are filled with the text of a date, which need not be one of the calendar. -/
theorem filled_date_iff : Filled (dateParts ++ parts) text values ↔
    ∃ d : Date, (d.year < 10000 ∧ d.month < 100 ∧ d.day < 100) ∧ ∃ rest later,
      text = d.text ++ rest ∧ values = dateValues d ++ later ∧ Filled parts rest later := by
  have written : ∀ (d : Date) (rest : Text), d.text ++ rest = zeroFilled 4 d.year ++
      '-' :: (zeroFilled 2 d.month ++ '-' :: (zeroFilled 2 d.day ++ rest)) := by
    intro d rest
    simp [Date.text, twoDigits_eq]
  constructor
  · intro filled
    obtain ⟨year, hy, _, _, rfl, rfl, fromDash⟩ := (filled_field_iff (by decide) (by decide)).1 filled
    obtain ⟨_, rfl, fromMonth⟩ := filled_plain_iff.1 fromDash
    obtain ⟨month, hm, _, _, rfl, rfl, fromDash'⟩ := (filled_field_iff (by decide) (by decide)).1 fromMonth
    obtain ⟨_, rfl, fromDay⟩ := filled_plain_iff.1 fromDash'
    obtain ⟨day, hd, rest, later, rfl, rfl, behind⟩ := (filled_field_iff (by decide) (by decide)).1 fromDay
    refine ⟨⟨year, month, day⟩, ⟨hy, hm, hd⟩, rest, later, ?_, rfl, behind⟩
    rw [written]
    rfl
  · rintro ⟨d, ⟨hy, hm, hd⟩, rest, later, rfl, rfl, filled⟩
    rw [written]
    refine (filled_field_iff (by decide) (by decide)).2 ⟨d.year, hy, _, _, rfl, rfl, .plain ?_⟩
    refine (filled_field_iff (by decide) (by decide)).2 ⟨d.month, hm, _, _, rfl, rfl, .plain ?_⟩
    exact (filled_field_iff (by decide) (by decide)).2 ⟨d.day, hd, _, _, rfl, rfl, filled⟩

/-! ## Times -/

def timeParts : List Part :=
  [.field (.number .hour true), .plain ':', .field (.number .minute true), .plain ':',
   .field (.number .second true)]

/-- The fields of a time in whole seconds. -/
def timeValues (t : TimeOfDay) : List (Field × Nat) :=
  [(.number .hour true, t.hour), (.number .minute true, t.minute), (.number .second true, t.second)]

/-- The parts of a time are filled with the text of a time in whole seconds, which need not be one of the
day. -/
theorem filled_time_iff : Filled timeParts text values ↔
    ∃ t : TimeOfDay, (t.hour < 100 ∧ t.minute < 100 ∧ t.second < 100) ∧ t.microsecond = 0 ∧
      text = t.text ∧ values = timeValues t := by
  have written : ∀ t : TimeOfDay, t.microsecond = 0 → t.text = zeroFilled 2 t.hour ++
      ':' :: (zeroFilled 2 t.minute ++ ':' :: (zeroFilled 2 t.second ++ [])) := by
    intro t whole
    simp [TimeOfDay.text, twoDigits_eq, whole]
  constructor
  · intro filled
    obtain ⟨hour, hh, _, _, rfl, rfl, fromColon⟩ := (filled_field_iff (by decide) (by decide)).1 filled
    obtain ⟨_, rfl, fromMinute⟩ := filled_plain_iff.1 fromColon
    obtain ⟨minute, hm, _, _, rfl, rfl, fromColon'⟩ := (filled_field_iff (by decide) (by decide)).1 fromMinute
    obtain ⟨_, rfl, fromSecond⟩ := filled_plain_iff.1 fromColon'
    obtain ⟨second, hs, _, _, rfl, rfl, behind⟩ := (filled_field_iff (by decide) (by decide)).1 fromSecond
    obtain ⟨rfl, rfl⟩ := filled_nil_iff.1 behind
    refine ⟨⟨hour, minute, second, 0⟩, ⟨hh, hm, hs⟩, rfl, ?_, rfl⟩
    rw [written _ rfl]
    rfl
  · rintro ⟨t, ⟨hh, hm, hs⟩, whole, rfl, rfl⟩
    rw [written t whole]
    refine (filled_field_iff (by decide) (by decide)).2 ⟨t.hour, hh, _, _, rfl, rfl, .plain ?_⟩
    refine (filled_field_iff (by decide) (by decide)).2 ⟨t.minute, hm, _, _, rfl, rfl, .plain ?_⟩
    exact (filled_field_iff (by decide) (by decide)).2 ⟨t.second, hs, _, _, rfl, rfl, .nil⟩

/-! ## Moments -/

theorem momentOf_dateValues (d : Date) : momentOf (dateValues d) = ⟨d, earliest.time, none⟩ := rfl

theorem momentOf_dateValues_append_timeValues (d : Date) (t : TimeOfDay) :
    momentOf (dateValues d ++ timeValues t) = ⟨d, ⟨t.hour, t.minute, t.second, 0⟩, none⟩ := rfl

theorem makeMoment_date_iff {d : Date} : MakeMoment (dateValues d) ↔ d.isReal = true := by
  constructor
  · intro real
    have date := real.date
    rwa [momentOf_dateValues] at date
  · intro real
    refine ⟨?_, ?_⟩
    · rwa [momentOf_dateValues]
    · rw [momentOf_dateValues]
      show earliest.time.isReal = true
      decide

theorem makeMoment_moment_iff {d : Date} {t : TimeOfDay} (whole : t.microsecond = 0) :
    MakeMoment (dateValues d ++ timeValues t) ↔ d.isReal = true ∧ t.isReal = true := by
  have same : (momentOf (dateValues d ++ timeValues t)).time = t := by
    rw [momentOf_dateValues_append_timeValues, ← whole]
  constructor
  · rintro ⟨date, time⟩
    rw [same] at time
    rw [momentOf_dateValues_append_timeValues] at date
    exact ⟨date, time⟩
  · rintro ⟨date, time⟩
    refine ⟨?_, ?_⟩
    · rwa [momentOf_dateValues_append_timeValues]
    · rwa [same]

/-! ## The patterns -/

/-- The numbers of a date of the calendar have at most as many digits as they are written with. -/
theorem short_of_isReal {d : Date} (real : d.isReal = true) :
    d.year < 10000 ∧ d.month < 100 ∧ d.day < 100 := by
  have date := Date.isReal_iff.1 real
  have := Date.daysInMonth_bounds d.year d.month
  omega

theorem sameLetter_separator {c : Char} (h : c = '-' ∨ c = ' ' ∨ c = ':') : sameLetter c c = true := by
  rcases h with rfl | rfl | rfl <;> decide

theorem fixedWidth_date : FixedWidth "yyyy-MM-dd" dateParts where
  cut := by decide
  marks := by decide
  fixed := by simp [dateParts, Part.IsFixed, fixedFields]
  distinct := by decide
  same := by
    intro c hc
    have dash : c = '-' := by simpa [literalsOf, dateParts, Part.literal] using hc
    exact sameLetter_separator (.inl dash)
  single := by decide

theorem fixedWidth_moment :
    FixedWidth "yyyy-MM-dd HH:mm:ss" (dateParts ++ .plain ' ' :: timeParts) where
  cut := by decide
  marks := by decide
  fixed := by simp [dateParts, timeParts, Part.IsFixed, fixedFields]
  distinct := by decide
  same := by
    intro c hc
    have separator : c = '-' ∨ c = ' ' ∨ c = ':' := by
      simpa [literalsOf, dateParts, timeParts, Part.literal] using hc
    exact sameLetter_separator separator
  single := by decide

/-- The dates of `yyyy-MM-dd` are the texts of the dates of the calendar, and those of `yyyy-MM-dd HH:mm:ss` are
such a text, a space and the text of a time of day in whole seconds. -/
theorem isDate_default_iff (text : Text) :
    (isDate? "yyyy-MM-dd" text ≠ none ∧
      (isDate? "yyyy-MM-dd" text = some true ↔ ∃ d : Date, d.isReal = true ∧ text = d.text)) ∧
    (isDate? "yyyy-MM-dd HH:mm:ss" text ≠ none ∧
      (isDate? "yyyy-MM-dd HH:mm:ss" text = some true ↔ ∃ (d : Date) (t : TimeOfDay),
        d.isReal = true ∧ t.isReal = true ∧ t.microsecond = 0 ∧ text = d.text ++ ' ' :: t.text)) := by
  refine ⟨⟨fixedWidth_date.isDate?_ne_none, ?_⟩, fixedWidth_moment.isDate?_ne_none, ?_⟩
  · rw [fixedWidth_date.isDate?_iff (by decide)]
    constructor
    · rintro ⟨values, filled, real⟩
      rw [← List.append_nil dateParts, filled_date_iff] at filled
      obtain ⟨d, -, rest, later, rfl, rfl, behind⟩ := filled
      obtain ⟨rfl, rfl⟩ := filled_nil_iff.1 behind
      rw [List.append_nil] at real ⊢
      exact ⟨d, makeMoment_date_iff.1 real, rfl⟩
    · rintro ⟨d, real, rfl⟩
      have filled : Filled (dateParts ++ []) (d.text ++ []) (dateValues d ++ []) :=
        filled_date_iff.2 ⟨d, short_of_isReal real, [], [], rfl, rfl, .nil⟩
      rw [List.append_nil, List.append_nil, List.append_nil] at filled
      exact ⟨dateValues d, filled, makeMoment_date_iff.2 real⟩
  · rw [fixedWidth_moment.isDate?_iff (by decide)]
    constructor
    · rintro ⟨values, filled, real⟩
      obtain ⟨d, -, _, _, rfl, rfl, fromSpace⟩ := filled_date_iff.1 filled
      obtain ⟨_, rfl, fromTime⟩ := filled_plain_iff.1 fromSpace
      obtain ⟨t, -, whole, rfl, rfl⟩ := filled_time_iff.1 fromTime
      obtain ⟨date, time⟩ := (makeMoment_moment_iff whole).1 real
      exact ⟨d, t, date, time, whole, rfl⟩
    · rintro ⟨d, t, date, time, whole, rfl⟩
      have bounds := TimeOfDay.isReal_iff.1 time
      have behind := filled_time_iff.2 ⟨t, ⟨by omega, by omega, by omega⟩, whole, rfl, rfl⟩
      refine ⟨dateValues d ++ timeValues t, ?_, (makeMoment_moment_iff whole).2 ⟨date, time⟩⟩
      exact filled_date_iff.2 ⟨d, short_of_isReal date, _, _, rfl, rfl, .plain behind⟩

/-- Reading takes a second 60, as a minute may have leap seconds, but no time of day has one. -/
example : isDate? "yyyy-MM-dd HH:mm:ss" "2016-12-31 23:59:60" = some false := by decide

end FixedExtract.DatePattern
