import FixedExtract.Proofs.Calendar.Reading
import Mathlib.Algebra.Order.BigOperators.Group.List
/-!
# Fields in a row

A pattern of fields of a fixed width without anything between them says where each field stands: the text is as
long as the pattern asks for, and is cut into slices. Without a fraction of a second among the fields, the dates of
the pattern are the texts whose slices are a date and a time. A fraction that stands last does no harm either, as
long as every other field has a number within the bounds of reading.
-/

namespace FixedExtract.DatePattern
open Decimal (digitsValue)

variable {fields others : List Field} {f : Field} {n : Nat} {text rest : Text} {values : List (Field × Nat)}

/-- The fields of a date. -/
def dateFields : List Field := [.year, .number .month true, .number .day true]

/-- Different fields of a fixed width, with the whole date if there is any part of one. -/
structure Row (fields : List Field) : Prop extends AreFixed fields where
  wholeDate : (∃ f ∈ dateFields, f ∈ fields) → ∀ f ∈ dateFields, f ∈ fields

/-- The pattern of fields one after the other. -/
def patternOf (fields : List Field) : Text := fields.flatMap Field.letters

def totalWidth (fields : List Field) : Nat := (fields.map Field.width).sum

/-- The slices of a text at the fields, and what each stands for. -/
def slices : List Field → Text → List (Field × Nat)
  | [], _ => []
  | f :: fields, text => (f, f.value (text.take f.width)) :: slices fields (text.drop f.width)

/-- What fields stand for is a date and a time of day, as far as the fields go. -/
structure IsReal (values : List (Field × Nat)) : Prop where
  year : ∀ y, (.year, y) ∈ values → 1 ≤ y
  month : ∀ m, (.number .month true, m) ∈ values → 1 ≤ m ∧ m ≤ 12
  day : ∀ y m d, (.year, y) ∈ values → (.number .month true, m) ∈ values →
    (.number .day true, d) ∈ values → 1 ≤ d ∧ d ≤ Date.daysInMonth y m
  hour : ∀ h, (.number .hour true, h) ∈ values → h ≤ 23
  minute : ∀ m, (.number .minute true, m) ∈ values → m ≤ 59
  second : ∀ s, (.number .second true, s) ∈ values → s ≤ 59

/-- The text has as many ASCII digits as the fields, and its slices are a date and a time. -/
structure FormsMoment (fields : List Field) (text : Text) : Prop where
  digits : IsDigits (totalWidth fields) text
  real : IsReal (slices fields text)

/-! ## The pattern is cut into its fields -/

/-- A field of a fixed width is cut off the front of a pattern. Two letters for the month must not be followed
by a third one. -/
theorem partsOf_letters_append (hf : f ∈ fixedFields)
    (apart : f = .number .month true → rest.head? ≠ some 'M') :
    partsOf (f.letters ++ rest) = .field f :: partsOf rest := by
  simp only [fixedFields, List.mem_cons, List.not_mem_nil, or_false] at hf
  rcases hf with rfl | rfl | rfl | rfl | rfl | rfl | rfl
  case inr.inl =>
    -- Two longer fields start like that of the month.
    cases rest with
    | nil => rfl
    | cons c rest =>
      have other : ('M' == c) = false := by
        rw [beq_eq_false_iff_ne]
        rintro rfl
        exact apart rfl rfl
      have month : Part.first 'M' ('M' :: c :: rest) = .field (.number .month true) := by
        simp [Part.first, Field.all, Field.letters, Unit.letter, List.isPrefixOf, other]
      show partsAfter 0 ('M' :: 'M' :: c :: rest) = _
      rw [partsAfter, month]
      rfl
  all_goals rfl

theorem head?_patternOf (fixed : ∀ f ∈ fields, f ∈ fixedFields) (absent : .number .month true ∉ fields) :
    (patternOf fields).head? ≠ some 'M' := by
  have letters : ∀ f ∈ fixedFields, f.letters.head? = some 'M' → f = .number .month true := by decide
  have written : ∀ f ∈ fixedFields, f.letters ≠ [] := by decide
  cases fields with
  | nil => simp [patternOf]
  | cons f fields =>
    have hf := fixed f List.mem_cons_self
    intro month
    rw [patternOf, List.flatMap_cons, List.head?_append_of_ne_nil _ (written f hf)] at month
    exact absent (letters f hf month ▸ List.mem_cons_self)

theorem partsOf_patternOf (h : AreFixed fields) : partsOf (patternOf fields) = fields.map .field := by
  induction fields with
  | nil => rfl
  | cons f fields ih =>
    have fixed := fun g hg => h.fixed g (List.mem_cons_of_mem f hg)
    obtain ⟨absent, distinct⟩ := List.nodup_cons.1 h.distinct
    rw [List.map_cons, ← ih ⟨fixed, distinct⟩]
    refine partsOf_letters_append (h.fixed f List.mem_cons_self) fun month => ?_
    exact head?_patternOf fixed (month ▸ absent)

theorem mergeSpace_fields (fields : List Field) :
    mergeSpace (fields.map .field) = fields.map .field := by
  induction fields with
  | nil => rfl
  | cons f fields ih => exact congrArg (List.cons (Mark.field f)) ih

theorem marks_fields (fields : List Field) :
    (fields.map Part.field).flatMap Part.marks = fields.map Mark.field := by
  rw [List.flatMap_map]
  exact List.flatMap_pure_eq_map Mark.field fields

theorem fieldsOf_fields (fields : List Field) : fieldsOf (fields.map .field) = fields := by
  rw [fieldsOf, List.filterMap_map]
  exact List.filterMap_some

theorem literalsOf_fields (fields : List Field) : literalsOf (fields.map .field) = [] := by
  rw [literalsOf, List.flatMap_map, List.flatMap_eq_nil_iff]
  exact fun _ _ => rfl

/-- The pattern of fields in a row is one of a fixed width. -/
theorem AreFixed.fixedWidth (h : AreFixed fields) : FixedWidth (patternOf fields) (fields.map .field) where
  cut := partsOf_patternOf h
  marks := by rw [marksOf, partsOf_patternOf h, marks_fields, mergeSpace_fields]
  fixed := by
    intro part hp
    obtain ⟨f, hf, rfl⟩ := List.mem_map.1 hp
    exact h.fixed f hf
  distinct := (fieldsOf_fields fields).symm ▸ h.distinct
  same := by simp [literalsOf_fields]
  single := by simp [literalsOf_fields]

/-! ## Slices -/

theorem keys_slices (fields : List Field) (text : Text) : (slices fields text).map Prod.fst = fields := by
  induction fields generalizing text with
  | nil => rfl
  | cons f fields ih => exact congrArg (List.cons f) (ih _)

/-- The fields are filled with the text when it is as long as they ask for, and then with its slices. -/
theorem filled_fields_iff : Filled (fields.map .field) text values ↔
    IsDigits (totalWidth fields) text ∧ values = slices fields text := by
  induction fields generalizing text values with
  | nil =>
    constructor
    · rintro ⟨⟩
      exact ⟨⟨rfl, by simp⟩, rfl⟩
    · rintro ⟨digits, rfl⟩
      rw [List.length_eq_zero_iff.1 digits.length]
      exact .nil
  | cons f fields ih =>
    have total : totalWidth (f :: fields) = f.width + totalWidth fields := rfl
    rw [List.map_cons, total]
    constructor
    · intro filled
      cases filled with
      | @field _ piece _ rest later digits filled =>
        obtain ⟨behind, rfl⟩ := ih.1 filled
        refine ⟨digits.append behind, ?_⟩
        rw [slices, List.take_left' digits.length, List.drop_left' digits.length]
    · rintro ⟨digits, rfl⟩
      have front : IsDigits f.width (text.take f.width) := digits.take
      have behind : IsDigits (totalWidth fields) (text.drop f.width) := digits.drop
      have filled := Filled.field front (ih.2 ⟨behind, rfl⟩)
      rwa [List.take_append_drop] at filled

/-- What a slice stands for is the value of its digits. -/
theorem Filled.exists_piece_of_mem {parts : List Part} (filled : Filled parts text values) (mem : (f, n) ∈ values) :
    ∃ piece, IsDigits f.width piece ∧ n = f.value piece := by
  induction filled with
  | nil => cases mem
  | field digits rest ih =>
    rcases List.mem_cons.1 mem with here | later
    · cases here
      exact ⟨_, digits, rfl⟩
    · exact ih later
  | plain rest ih => exact ih mem

/-! ## Slices that make a moment -/

theorem exists_value_of_mem_keys (mem : f ∈ values.map Prod.fst) : ∃ n, (f, n) ∈ values := by
  obtain ⟨⟨_, n⟩, here, rfl⟩ := List.mem_map.1 mem
  exact ⟨n, here⟩

/-- What holds of a field's value, and of what is there without one, holds of what the moment has for it. -/
theorem get_momentOf_cases (h : AreFixed (values.map Prod.fst)) (hf : f ∈ fixedFields) {p : Nat → Prop}
    (given : ∀ n, (f, n) ∈ values → p n) (missing : p (f.get earliest)) : p (f.get (momentOf values)) := by
  by_cases mem : f ∈ values.map Prod.fst
  · obtain ⟨n, here⟩ := exists_value_of_mem_keys mem
    rw [get_momentOf_of_mem h here]
    exact given n here
  · rwa [get_momentOf_of_not_mem h hf mem]

/-- The numbers that fields can be written with make a moment when they are a date and a time. -/
theorem makeMoment_iff (row : Row (values.map Prod.fst))
    (short : ∀ y, (.year, y) ∈ values → y ≤ 9999)
    (fraction : ∀ s, (.millisecond, s) ∈ values → s < 1000000) : MakeMoment values ↔ IsReal values := by
  have h := row.toAreFixed
  constructor
  · rintro ⟨date, time⟩
    rw [Date.isReal_iff] at date
    rw [TimeOfDay.isReal_iff] at time
    refine ⟨fun y hy => ?_, fun m hm => ?_, fun y m d hy hm hd => ?_, fun n hn => ?_, fun n hn => ?_,
      fun n hn => ?_⟩
    · have year : (momentOf values).date.year = y := get_momentOf_of_mem h hy
      omega
    · have month : (momentOf values).date.month = m := get_momentOf_of_mem h hm
      omega
    · have year : (momentOf values).date.year = y := get_momentOf_of_mem h hy
      have month : (momentOf values).date.month = m := get_momentOf_of_mem h hm
      have day : (momentOf values).date.day = d := get_momentOf_of_mem h hd
      rw [← year, ← month, ← day]
      exact date.2.2.2.2
    · have hour : (momentOf values).time.hour = n := get_momentOf_of_mem h hn
      omega
    · have minute : (momentOf values).time.minute = n := get_momentOf_of_mem h hn
      omega
    · have second : (momentOf values).time.second = n := get_momentOf_of_mem h hn
      omega
  · intro real
    have year : 1 ≤ (momentOf values).date.year ∧ (momentOf values).date.year ≤ 9999 :=
      get_momentOf_cases h (f := .year) (by decide) (p := fun y => 1 ≤ y ∧ y ≤ 9999)
        (fun y hy => ⟨real.year y hy, short y hy⟩) (by decide)
    have month : 1 ≤ (momentOf values).date.month ∧ (momentOf values).date.month ≤ 12 :=
      get_momentOf_cases h (f := .number .month true) (by decide) (p := fun m => 1 ≤ m ∧ m ≤ 12)
        real.month (by decide)
    have day : 1 ≤ (momentOf values).date.day ∧ (momentOf values).date.day ≤
        Date.daysInMonth (momentOf values).date.year (momentOf values).date.month := by
      refine get_momentOf_cases h (f := .number .day true) (by decide)
        (p := fun d => 1 ≤ d ∧ d ≤ Date.daysInMonth _ _) (fun d hd => ?_) ⟨Nat.le_refl 1, ?_⟩
      · -- Where the day is given, the year and the month are given too.
        have all := row.wholeDate ⟨.number .day true, by decide, List.mem_map_of_mem hd⟩
        obtain ⟨y, hy⟩ := exists_value_of_mem_keys (all .year (by decide))
        obtain ⟨m, hm⟩ := exists_value_of_mem_keys (all (.number .month true) (by decide))
        have sameYear : (momentOf values).date.year = y := get_momentOf_of_mem h hy
        have sameMonth : (momentOf values).date.month = m := get_momentOf_of_mem h hm
        rw [sameYear, sameMonth]
        exact real.day y m d hy hm hd
      · exact (Date.daysInMonth_bounds _ _).1.trans' (by decide)
    have hour : (momentOf values).time.hour < 24 :=
      get_momentOf_cases h (f := .number .hour true) (by decide) (p := (· < 24))
        (fun n hn => Nat.lt_succ_of_le (real.hour n hn)) (by decide)
    have minute : (momentOf values).time.minute < 60 :=
      get_momentOf_cases h (f := .number .minute true) (by decide) (p := (· < 60))
        (fun n hn => Nat.lt_succ_of_le (real.minute n hn)) (by decide)
    have second : (momentOf values).time.second < 60 :=
      get_momentOf_cases h (f := .number .second true) (by decide) (p := (· < 60))
        (fun n hn => Nat.lt_succ_of_le (real.second n hn)) (by decide)
    have micro : (momentOf values).time.microsecond < 1000000 :=
      get_momentOf_cases h (f := .millisecond) (by decide) (p := (· < 1000000)) fraction (by decide)
    exact ⟨Date.isReal_iff.2 ⟨year.1, year.2, month.1, month.2, day⟩,
      TimeOfDay.isReal_iff.2 ⟨hour, minute, second, micro⟩⟩

/-- The slices of a text that is as long as the fields ask for make a moment when they are a date and a time. -/
theorem Row.makeMoment_slices_iff (row : Row fields) (digits : IsDigits (totalWidth fields) text) :
    MakeMoment (slices fields text) ↔ IsReal (slices fields text) := by
  have filled := filled_fields_iff.2 ⟨digits, rfl⟩
  refine makeMoment_iff ((keys_slices fields text).symm ▸ row) (fun y hy => ?_) fun s hs => ?_
  · obtain ⟨piece, year, rfl⟩ := filled.exists_piece_of_mem hy
    exact Nat.le_of_lt_succ year.value_lt
  · obtain ⟨piece, fraction, rfl⟩ := filled.exists_piece_of_mem hs
    have length : piece.length = 3 := fraction.length
    have value : digitsValue piece < 10 ^ 3 := fraction.value_lt
    rw [Field.value, length]
    omega

/-! ## The dates of fields in a row -/

/-- Where the slices are within the bounds of their fields, and only the last field may be a fraction of a
second, the dates of the pattern are the texts that form a moment. -/
theorem Row.isDate?_iff_of_takes (row : Row fields) (last : .millisecond ∉ fields.dropLast)
    (takes : ∀ slice ∈ slices fields text, slice.1.Takes slice.2) :
    isDate? (patternOf fields) text = some true ↔ FormsMoment fields text := by
  by_cases digits : IsDigits (totalWidth fields) text
  · have lastPart : .field .millisecond ∉ (fields.map Part.field).dropLast := by
      rw [← List.map_dropLast]
      intro mem
      obtain ⟨f, hf, same⟩ := List.mem_map.1 mem
      cases same
      exact last hf
    rw [row.fixedWidth.isDate?_iff_of_takes (filled_fields_iff.2 ⟨digits, rfl⟩) lastPart takes,
      row.makeMoment_slices_iff digits]
    exact ⟨fun real => ⟨digits, real⟩, FormsMoment.real⟩
  · refine iff_of_false ?_ fun forms => digits forms.digits
    rw [row.fixedWidth.isDate?_iff_read]
    rintro ⟨⟨values, filled⟩, -⟩
    exact digits (filled_fields_iff.1 filled).1

/-- Without a fraction of a second, the dates of the pattern are the texts that form a moment. -/
theorem Row.isDate?_iff_of_whole (row : Row fields) (whole : .millisecond ∉ fields) :
    isDate? (patternOf fields) text = some true ↔ FormsMoment fields text := by
  rw [row.fixedWidth.isDate?_iff (by rwa [fieldsOf_fields])]
  constructor
  · rintro ⟨values, filled, real⟩
    obtain ⟨digits, rfl⟩ := filled_fields_iff.1 filled
    exact ⟨digits, (row.makeMoment_slices_iff digits).1 real⟩
  · rintro ⟨digits, real⟩
    exact ⟨_, filled_fields_iff.2 ⟨digits, rfl⟩, (row.makeMoment_slices_iff digits).2 real⟩

end FixedExtract.DatePattern
