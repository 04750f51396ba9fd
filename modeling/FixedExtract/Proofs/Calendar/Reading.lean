import FixedExtract.Proofs.Calendar.Fields
import Mathlib.Data.List.Nodup
/-!
# Patterns of a fixed width

Where all fields of a pattern are written as a fixed number of digits, and all else stands for itself, the shape
cuts a text into pieces in one way only. Reading may cut it otherwise, because it takes fewer digits for a number
than it is written with. But then something is left over at the end: without a fraction of a second in the
pattern no mark takes more than its part is written with. So a text that is read to its end is read piece by
piece as the shape cuts it.
-/

namespace FixedExtract.DatePattern

variable {parts : List Part} {marks : List Mark} {f : Field} {c : Char} {text rest : Text}
  {values found later : List (Field × Nat)}

/-! ## Parts -/

/-- The part is a field of a fixed width or a character. -/
def Part.IsFixed : Part → Prop
  | .field f => f ∈ fixedFields
  | .quoted _ => False
  | .plain _ => True

/-- The fields among the parts. -/
def fieldsOf (parts : List Part) : List Field :=
  parts.filterMap fun
    | .field f => some f
    | _ => none

/-- The characters among the parts. -/
def literalsOf (parts : List Part) : Text := parts.flatMap Part.literal

/-- The fewest characters that reading the part takes. -/
def Part.least : Part → Nat
  | .field f => f.least
  | part => part.literal.length

/-- The most characters that reading the part takes, where no two spaces stand together. -/
def Part.most : Part → Nat
  | .field f => f.most
  | part => part.literal.length

/-! ## Shape -/

/-- Parts of a fixed width filled with digits: the text, and what its pieces stand for. -/
inductive Filled : List Part → Text → List (Field × Nat) → Prop
  | nil : Filled [] [] []
  | field {f : Field} {piece : Text} {parts : List Part} {text : Text} {values : List (Field × Nat)}
      (digits : IsDigits f.width piece) (rest : Filled parts text values) :
      Filled (.field f :: parts) (piece ++ text) ((f, f.value piece) :: values)
  | plain {c : Char} {parts : List Part} {text : Text} {values : List (Field × Nat)}
      (rest : Filled parts text values) : Filled (.plain c :: parts) (c :: text) values

/-- A text has the shape of parts of a fixed width when it fills them. -/
theorem hasShape_iff (fixed : ∀ part ∈ parts, part.IsFixed) :
    hasShape parts text = true ↔ ∃ values, Filled parts text values := by
  induction parts generalizing text with
  | nil =>
    rw [hasShape, List.isEmpty_iff]
    constructor
    · rintro rfl
      exact ⟨[], .nil⟩
    · rintro ⟨values, ⟨⟩⟩
      rfl
  | cons part parts ih =>
    have ih : ∀ text, hasShape parts text = true ↔ ∃ values, Filled parts text values :=
      fun _ => ih fun part hp => fixed part (List.mem_cons_of_mem _ hp)
    have here := fixed part List.mem_cons_self
    cases part with
    | field f =>
      have admits : ∀ piece, f.admits piece = true ↔ IsDigits f.width piece := fun _ => admits_iff here
      simp only [hasShape, List.any_eq_true, Bool.and_eq_true, admits, ih]
      -- The shape tries every place to cut, but the digits of the field end at one place only.
      constructor
      · rintro ⟨count, -, digits, values, filled⟩
        rw [← List.take_append_drop count text]
        exact ⟨_, .field digits filled⟩
      · rintro ⟨values, filled⟩
        cases filled with
        | @field _ piece _ behind values digits filled =>
          refine ⟨f.width, ?_, ?_, values, ?_⟩
          · rw [List.mem_range, List.length_append, digits.length]
            omega
          · rwa [List.take_left' digits.length]
          · rwa [List.drop_left' digits.length]
    | quoted literal => exact here.elim
    | plain c =>
      simp only [hasShape, Bool.and_eq_true, ih, List.isPrefixOf_iff_prefix]
      constructor
      · rintro ⟨⟨behind, rfl⟩, values, filled⟩
        exact ⟨values, .plain filled⟩
      · rintro ⟨values, filled⟩
        cases filled with
        | plain filled => exact ⟨⟨_, rfl⟩, values, filled⟩

theorem Filled.keys (filled : Filled parts text values) : values.map Prod.fst = fieldsOf parts := by
  induction filled with
  | nil => rfl
  | field digits rest ih => exact congrArg (List.cons _) ih
  | plain rest ih => exact ih

/-- White space in the text is white space of the pattern. -/
theorem Filled.countP_isSpace (filled : Filled parts text values) :
    text.countP Text.isSpace = (literalsOf parts).countP Text.isSpace := by
  induction filled with
  | nil => rfl
  | field digits rest ih =>
    rw [List.countP_append, digits.countP_isSpace, Nat.zero_add]
    exact ih
  | plain rest ih =>
    rw [List.countP_cons, ih, literalsOf, literalsOf, List.flatMap_cons]
    exact List.countP_cons.symm

/-! ## Reading a part -/

theorem readMarks_field (f : Field) (marks : List Mark) (text : Text) :
    readMarks (.field f :: marks) text = (f.readings text).findSome? fun reading =>
      (readMarks marks reading.2).map fun read => ((f, reading.1) :: read.1, read.2) := rfl

/-- A reading counts when the other marks read what is behind it, and not what is behind an earlier one. -/
theorem readMarks_field_of_split {n : Nat} {behind : Text} {before after : List (Nat × Text)}
    (split : f.readings text = before ++ (n, behind) :: after)
    (fail : ∀ reading ∈ before, readMarks marks reading.2 = none)
    (read : readMarks marks behind = some (later, rest)) :
    readMarks (.field f :: marks) text = some ((f, n) :: later, rest) := by
  have skipped : (before.findSome? fun reading =>
      (readMarks marks reading.2).map fun read => ((f, reading.1) :: read.1, read.2)) = none := by
    rw [List.findSome?_eq_none_iff]
    intro reading hr
    rw [fail reading hr]
    rfl
  rw [readMarks_field, split, List.findSome?_append, skipped, Option.none_or, List.findSome?_cons]
  simp only [read, Option.map_some]

/-- The first reading counts when the other marks read what is behind it. -/
theorem readMarks_field_of_first {n : Nat} {behind : Text} {others : List (Nat × Text)}
    (first : f.readings text = (n, behind) :: others) (read : readMarks marks behind = some (later, rest)) :
    readMarks (.field f :: marks) text = some ((f, n) :: later, rest) := by
  have split : f.readings text = [] ++ (n, behind) :: others := first
  exact readMarks_field_of_split split (by simp) read

/-- Reading a field takes one of its readings and then reads the other marks. -/
theorem exists_of_readMarks_field (h : readMarks (.field f :: marks) text = some (values, rest)) :
    ∃ n behind later, (n, behind) ∈ f.readings text ∧ readMarks marks behind = some (later, rest) ∧
      values = (f, n) :: later := by
  rw [readMarks_field] at h
  obtain ⟨⟨n, behind⟩, reading, some⟩ := List.exists_of_findSome?_eq_some h
  obtain ⟨⟨later, rest'⟩, read, same⟩ := Option.map_eq_some_iff.1 some
  cases same
  exact ⟨n, behind, later, reading, read, rfl⟩

/-- Where no two spaces stand together, reading a character takes one character. -/
theorem exists_of_readMarks_plain {result : List (Field × Nat) × Text}
    (single : text.countP Text.isSpace ≤ 1)
    (h : readMarks ((Part.plain c).marks ++ marks) text = some result) :
    ∃ d behind, text = d :: behind ∧ readMarks marks behind = some result := by
  have marks : (Part.plain c).marks = [if Text.isSpace c then .space else .char c] := rfl
  rw [marks, List.singleton_append] at h
  split at h
  · rw [readMarks] at h
    obtain ⟨count, hc, read⟩ := List.exists_of_findSome?_eq_some h
    rw [List.mem_reverse, List.mem_range] at hc
    have run : (text.takeWhile Text.isSpace).length ≤ text.countP Text.isSpace := by
      have all : (text.takeWhile Text.isSpace).countP Text.isSpace = (text.takeWhile Text.isSpace).length :=
        List.countP_eq_length.2 fun d hd => List.mem_takeWhile_imp hd
      rw [← all]
      exact (List.takeWhile_sublist _).countP_le
    -- So the mark takes the one space there is, and nothing more.
    obtain rfl : count = 0 := by omega
    cases text with
    | nil => simp at hc
    | cons d behind => exact ⟨d, behind, rfl, read⟩
  · cases text with
    | nil => cases h
    | cons d behind =>
      rw [readMarks] at h
      split at h
      · exact ⟨d, behind, rfl, h⟩
      · cases h

/-- A character is read where it stands. -/
theorem readMarks_plain (same : sameLetter c c = true) (single : (c :: text).countP Text.isSpace ≤ 1) :
    readMarks ((Part.plain c).marks ++ marks) (c :: text) = readMarks marks text := by
  have marks : (Part.plain c).marks = [if Text.isSpace c then .space else .char c] := rfl
  rw [marks, List.singleton_append]
  split
  · next space =>
    have none : text.takeWhile Text.isSpace = [] := by
      rw [List.countP_cons_of_pos space] at single
      have apart := List.countP_eq_zero.1 (Nat.le_zero.1 (Nat.le_of_succ_le_succ single))
      cases text with
      | nil => rfl
      | cons d behind => exact List.takeWhile_cons_of_neg (apart d List.mem_cons_self)
    rw [readMarks, List.takeWhile_cons_of_pos space, none]
    show [0].findSome? _ = _
    rw [List.findSome?_singleton]
    rfl
  · rw [readMarks, if_pos same]

/-! ## How far reading gets -/

/-- Reading takes at least as many characters as its parts must have, and at most as many as they may have. -/
theorem length_of_readMarks (fixed : ∀ part ∈ parts, part.IsFixed)
    (single : text.countP Text.isSpace ≤ 1)
    (h : readMarks (parts.flatMap Part.marks) text = some (values, rest)) :
    rest.length + (parts.map Part.least).sum ≤ text.length ∧
      text.length ≤ rest.length + (parts.map Part.most).sum := by
  induction parts generalizing text values with
  | nil =>
    cases h
    exact ⟨Nat.le_refl _, Nat.le_refl _⟩
  | cons part parts ih =>
    have fixedLater : ∀ part ∈ parts, part.IsFixed := fun part hp => fixed part (List.mem_cons_of_mem _ hp)
    have here := fixed part List.mem_cons_self
    rw [List.flatMap_cons] at h
    rw [List.map_cons, List.map_cons, List.sum_cons, List.sum_cons]
    cases part with
    | field f =>
      obtain ⟨n, behind, later, reading, read, rfl⟩ := exists_of_readMarks_field h
      obtain ⟨piece, rfl, size⟩ := exists_piece_of_mem_readings here reading
      rw [List.countP_append] at single
      obtain ⟨least, most⟩ := ih fixedLater (by omega) read
      have := size.least
      have := size.most
      rw [List.length_append]
      simp only [Part.least, Part.most]
      omega
    | quoted literal => exact here.elim
    | plain c =>
      obtain ⟨d, behind, rfl, read⟩ := exists_of_readMarks_plain single h
      rw [List.countP_cons] at single
      obtain ⟨least, most⟩ := ih fixedLater (by omega) read
      have one : (Part.plain c).literal.length = 1 := rfl
      simp only [Part.least, Part.most, one, List.length_cons]
      omega

/-! ## Reading what the shape cuts -/

/-- Without a fraction of a second, no field takes more characters than it is written with. -/
theorem most_eq_width (hf : f ∈ fixedFields) (whole : f ≠ .millisecond) : f.most = f.width := by
  rcases fixedFields_cases hf with rfl | ⟨unit, -, rfl⟩ | rfl
  · rfl
  · rfl
  · exact absurd rfl whole

/-- The length of a text is the number of characters that reading takes at most. -/
theorem Filled.length (filled : Filled parts text values) (fixed : ∀ part ∈ parts, part.IsFixed)
    (whole : .millisecond ∉ fieldsOf parts) : text.length = (parts.map Part.most).sum := by
  induction filled with
  | nil => rfl
  | @field f piece parts text values digits filled ih =>
    obtain ⟨apart, whole⟩ := not_or.1 (List.mem_cons.not.1 whole)
    have here : f ∈ fixedFields := fixed _ List.mem_cons_self
    rw [List.length_append, digits.length, List.map_cons, List.sum_cons,
      ih (fun part hp => fixed part (List.mem_cons_of_mem _ hp)) whole]
    exact congrArg (· + _) (most_eq_width here fun same => apart same.symm).symm
  | @plain c parts text values filled ih =>
    rw [List.length_cons, List.map_cons, List.sum_cons, Nat.add_comm,
      ih (fun part hp => fixed part (List.mem_cons_of_mem _ hp)) whole]
    rfl

theorem not_mem_dropLast_of_cons {α : Type} {a b : α} {list : List α} (h : a ∉ (b :: list).dropLast) :
    a ∉ list.dropLast := by
  cases list with
  | nil => exact List.not_mem_nil
  | cons c list => exact fun later => h (List.mem_cons_of_mem b later)

/-- Without a fraction of a second, a text that is read to its end is read as the shape cuts it. -/
theorem Filled.eq_of_readMarks (filled : Filled parts text values)
    (fixed : ∀ part ∈ parts, part.IsFixed) (whole : .millisecond ∉ fieldsOf parts)
    (single : text.countP Text.isSpace ≤ 1)
    (read : readMarks (parts.flatMap Part.marks) text = some (found, [])) : found = values := by
  induction filled generalizing found with
  | nil =>
    cases read
    rfl
  | @field f piece parts text values digits filled ih =>
    obtain ⟨apart, wholeLater⟩ := not_or.1 (List.mem_cons.not.1 whole)
    have here : f ∈ fixedFields := fixed _ List.mem_cons_self
    have fixedLater : ∀ part ∈ parts, part.IsFixed := fun part hp => fixed part (List.mem_cons_of_mem _ hp)
    obtain ⟨n, behind, later, reading, readLater, rfl⟩ := exists_of_readMarks_field read
    obtain ⟨taken, split, size⟩ := exists_piece_of_mem_readings here reading
    have singleLater : behind.countP Text.isSpace ≤ 1 := by
      rw [split, List.countP_append] at single
      omega
    -- The other marks take no more than what is behind the piece, so the field takes no less than the piece.
    have most := (length_of_readMarks fixedLater singleLater readLater).2
    have width := filled.length fixedLater wholeLater
    have lengths := congrArg List.length split
    rw [List.length_append, List.length_append] at lengths
    have narrow := size.most
    rw [most_eq_width here fun same => apart same.symm, ← digits.length] at narrow
    rw [List.length_nil] at most
    obtain ⟨rfl, rfl⟩ := List.append_inj split (by omega)
    rw [(size.value digits.ascii).1, ih fixedLater wholeLater singleLater readLater]
  | @plain c parts text values filled ih =>
    obtain ⟨d, behind, split, readLater⟩ := exists_of_readMarks_plain single read
    obtain ⟨rfl, rfl⟩ := List.cons.inj split
    refine ih (fun part hp => fixed part (List.mem_cons_of_mem _ hp)) whole ?_ readLater
    rw [List.countP_cons] at single
    omega

/-- Pieces within the bounds of their fields are read as the shape cuts them. Only the last part may be a
fraction of a second. -/
theorem Filled.readMarks (filled : Filled parts text values) (fixed : ∀ part ∈ parts, part.IsFixed)
    (last : .field .millisecond ∉ parts.dropLast) (takes : ∀ value ∈ values, value.1.Takes value.2)
    (same : ∀ c ∈ literalsOf parts, sameLetter c c = true) (single : text.countP Text.isSpace ≤ 1) :
    readMarks (parts.flatMap Part.marks) text = some (values, []) := by
  induction filled with
  | nil => rfl
  | @field f piece parts text values digits filled ih =>
    rw [List.countP_append] at single
    have later := ih (fun part hp => fixed part (List.mem_cons_of_mem _ hp))
      (not_mem_dropLast_of_cons last) (fun value hv => takes value (List.mem_cons_of_mem _ hv)) same
      (by omega)
    have ends : f = .millisecond → text = [] := by
      rintro rfl
      cases filled with
      | nil => rfl
      | field => exact absurd List.mem_cons_self last
      | plain => exact absurd List.mem_cons_self last
    obtain ⟨others, first⟩ := readings_eq_cons text (show f ∈ fixedFields from fixed _ List.mem_cons_self)
      digits (takes _ List.mem_cons_self) ends
    exact readMarks_field_of_first first later
  | @plain c parts text values filled ih =>
    rw [List.flatMap_cons, readMarks_plain (same c List.mem_cons_self) single]
    rw [List.countP_cons] at single
    exact ih (fun part hp => fixed part (List.mem_cons_of_mem _ hp)) (not_mem_dropLast_of_cons last) takes
      (fun d hd => same d (List.mem_cons_of_mem _ hd)) (by omega)

/-! ## Dates of a pattern of a fixed width -/

/-- A pattern whose parts are different fields of a fixed width and characters, with one space at most. -/
structure FixedWidth (pattern : Text) (parts : List Part) : Prop where
  cut : partsOf pattern = parts
  marks : marksOf pattern = parts.flatMap Part.marks
  fixed : ∀ part ∈ parts, part.IsFixed
  distinct : (fieldsOf parts).Nodup
  same : ∀ c ∈ literalsOf parts, sameLetter c c = true
  single : (literalsOf parts).countP Text.isSpace ≤ 1

theorem allDistinct_iff {letters : List Char} : allDistinct letters = true ↔ letters.Nodup := by
  induction letters with
  | nil => simp [allDistinct]
  | cons c rest ih =>
    rw [allDistinct, Bool.and_eq_true, ih, List.nodup_cons, List.elem_eq_mem, Bool.not_eq_true',
      decide_eq_false_iff_not]

/-- A text is read as a moment when its marks read it to the end, and what they read is one. -/
theorem readMoment_isSome_iff {pattern : Text} :
    (readMoment pattern text).isSome = true ↔
      ∃ values, readMarks (marksOf pattern) text = some (values, []) ∧ MakeMoment values := by
  unfold readMoment
  split
  · next values read =>
    rw [read]
    dsimp only
    split
    · next real =>
      rw [Bool.and_eq_true] at real
      exact iff_of_true rfl ⟨values, rfl, real.1, real.2⟩
    · next unreal =>
      refine iff_of_false (by simp) ?_
      rintro ⟨_, same, date, time⟩
      cases same
      exact unreal (by rw [date, time]; rfl)
  · next other =>
    refine iff_of_false (by simp) ?_
    rintro ⟨values, read, -⟩
    exact other values read

namespace FixedWidth
variable {pattern : Text} (h : FixedWidth pattern parts)
include h

theorem areFixed : AreFixed (fieldsOf parts) := by
  refine ⟨fun f hf => ?_, h.distinct⟩
  obtain ⟨part, hp, some⟩ := List.mem_filterMap.1 hf
  cases part with
  | field g =>
    cases some
    exact h.fixed _ hp
  | quoted literal => cases some
  | plain c => cases some

/-- No two fields of a fixed width are read by one directive. -/
theorem hasDistinctFields : hasDistinctFields pattern = true := by
  have directives : DatePattern.hasDistinctFields pattern =
      allDistinct ((fieldsOf parts).map Field.directive) := by
    unfold DatePattern.hasDistinctFields
    rw [h.cut, fieldsOf, List.map_filterMap]
    congr 1
    refine List.filterMap_congr fun part _ => ?_
    cases part <;> rfl
  have apart : ∀ f ∈ fixedFields, ∀ g ∈ fixedFields, f.directive = g.directive → f = g := by decide
  rw [directives, allDistinct_iff]
  exact List.Nodup.map_on
    (fun f hf g hg => apart f (h.areFixed.fixed f hf) g (h.areFixed.fixed g hg)) h.distinct

/-- A text is a date of the pattern when it fills the parts and is read as a moment. -/
theorem isDate?_iff_read : isDate? pattern text = some true ↔
    (∃ values, Filled parts text values) ∧
      ∃ values, readMarks (parts.flatMap Part.marks) text = some (values, []) ∧ MakeMoment values := by
  rw [← hasShape_iff h.fixed, ← h.marks, ← readMoment_isSome_iff]
  unfold isDate?
  rw [hasShapeOf, h.cut, h.hasDistinctFields]
  cases hasShape parts text <;> simp

theorem isDate?_ne_none : isDate? pattern text ≠ none := by
  unfold isDate?
  rw [h.hasDistinctFields]
  cases hasShapeOf pattern text <;> simp

/-- Where the pieces are within the bounds of their fields, they decide. -/
theorem isDate?_iff_of_takes (filled : Filled parts text values)
    (last : .field .millisecond ∉ parts.dropLast) (takes : ∀ value ∈ values, value.1.Takes value.2) :
    isDate? pattern text = some true ↔ MakeMoment values := by
  have single := filled.countP_isSpace.trans_le h.single
  rw [h.isDate?_iff_read, filled.readMarks h.fixed last takes h.same single]
  constructor
  · rintro ⟨-, found, same, real⟩
    cases same
    exact real
  · exact fun real => ⟨⟨values, filled⟩, values, rfl, real⟩

/-- Without a fraction of a second, a text is a date of the pattern when it fills the parts with a moment. -/
theorem isDate?_iff (whole : .millisecond ∉ fieldsOf parts) :
    isDate? pattern text = some true ↔ ∃ values, Filled parts text values ∧ MakeMoment values := by
  constructor
  · rw [h.isDate?_iff_read]
    rintro ⟨⟨values, filled⟩, found, read, real⟩
    have single := filled.countP_isSpace.trans_le h.single
    rw [filled.eq_of_readMarks h.fixed whole single read] at real
    exact ⟨values, filled, real⟩
  · rintro ⟨values, filled, real⟩
    have keys : AreFixed (values.map Prod.fst) := filled.keys ▸ h.areFixed
    -- What makes a moment is within the bounds of reading, so the pieces are read as they stand.
    have last : .field .millisecond ∉ parts.dropLast := by
      intro mem
      exact whole (List.mem_filterMap.2 ⟨_, List.dropLast_subset parts mem, rfl⟩)
    exact (h.isDate?_iff_of_takes filled last fun _ hv => real.takes keys hv).2 real

end FixedWidth

end FixedExtract.DatePattern
