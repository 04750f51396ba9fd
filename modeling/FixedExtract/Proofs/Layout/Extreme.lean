import FixedExtract.Proofs.Layout.Total
/-!
# Minimum and maximum

Decimals are compared exactly, but the one that is chosen is rounded when it is written. So the field shows the least or
the greatest number exactly when that number has no more digits than are kept, and is in range. What it shows depends
on nothing but that number, not on the order of the sources or on how they are written.
-/

namespace FixedExtract.Layout

open Decimal (IsPlain Keeps Rounds working working_proper)

variable {record : Record} {sources others : List NonBlank} {x : ℚ}

/-- The numbers among the sources. -/
def numbers (record : Record) (sources : List NonBlank) : Set ℚ :=
  {x | ∃ source ∈ sources, ∃ d, (record.text? source.text).bind Decimal.read? = some d ∧ d.value = x}

theorem numbers_eq (record : Record) (sources : List NonBlank) :
    numbers record sources =
      {x | ∃ d ∈ decimals (sources.map fun source => record.text? source.text), d.value = x} := by
  ext x
  simp only [numbers, decimals, Set.mem_ofPred_eq, List.mem_filterMap, List.mem_map]
  constructor
  · rintro ⟨source, hs, d, hd, same⟩
    exact ⟨d, ⟨_, ⟨source, hs, rfl⟩, hd⟩, same⟩
  · rintro ⟨d, ⟨_, ⟨source, hs, rfl⟩, hd⟩, same⟩
    exact ⟨source, hs, d, hd, same⟩

theorem numbers_perm (same : others.Perm sources) : numbers record others = numbers record sources := by
  ext x
  simp only [numbers, Set.mem_ofPred_eq, same.mem_iff]

/-! ## A number that is written -/

/-- What a field shows of a number. -/
def shown (d : Decimal) : Except RenderFault Text :=
  match Decimal.shortPlain? working d with
  | some text => .ok text
  | none => .error .overflow

/-- The outcome shows the number as it is rounded, unless that is beyond the range. So it shows the number itself
exactly when rounding does not change it, and it is in range. -/
structure ShowsRounded (x : ℚ) (outcome : Except RenderFault Text) : Prop where
  exactly : (∃ text, outcome = .ok text ∧ IsPlain text x) ↔ Keeps working x ∧ |x| < 10 ^ (working.maxExponent + 1)
  rounded : ∃ r, Rounds working x r ∧
    ((|r| < 10 ^ (working.maxExponent + 1) ∧ ∃ text, outcome = .ok text ∧ IsPlain text r) ∨
      (10 ^ (working.maxExponent + 1) ≤ |r| ∧ outcome = .error .overflow))

theorem shown_congr {a b : Decimal} (same : a.value = b.value) : shown a = shown b := by
  rw [shown, shown, Decimal.shortPlain?_congr working_proper same]

theorem showsRounded_shown (d : Decimal) : ShowsRounded d.value (shown d) := by
  obtain ⟨r, rounds⟩ := Decimal.exists_rounds working d
  have unchanged := rounds.eq_iff working_proper.digits_pos
  rcases Decimal.shortPlain?_cases working_proper rounds with ⟨small, text, written, plain⟩ | ⟨large, missing⟩
  · have outcome : shown d = .ok text := by rw [shown, written]
    refine ⟨?_, r, rounds, .inl ⟨small, text, outcome, plain⟩⟩
    rw [outcome]
    constructor
    · -- A text that shows the number shows no other, so it has not been changed by rounding.
      rintro ⟨_, same, plain'⟩
      cases same
      have value := plain.value_unique plain'
      exact ⟨unchanged.1 value, value ▸ small⟩
    · rintro ⟨keeps, -⟩
      exact ⟨text, rfl, unchanged.2 keeps ▸ plain⟩
  · have outcome : shown d = .error .overflow := by rw [shown, missing]
    refine ⟨?_, r, rounds, .inr ⟨large, outcome⟩⟩
    rw [outcome]
    constructor
    · rintro ⟨_, same, -⟩
      cases same
    · intro ⟨keeps, small⟩
      rw [unchanged.2 keeps] at large
      exact absurd small (not_lt.2 large)

/-! ## The number that is chosen -/

section
variable {pick : Decimal → List Decimal → Decimal} {operation : CompositeOperation}

/-- A field of an operation that picks one of the numbers shows the one that is picked. -/
theorem render_pick (combines : ∀ values delimiter defaultValue,
      combineTexts values delimiter defaultValue operation = extreme pick values defaultValue)
    {m : Mapping} {delimiter : Text} {filled : sources ≠ []}
    (hm : m.transformation = .composite sources delimiter operation filled) {first : Decimal} {rest : List Decimal}
    (hd : decimals (sources.map fun source => record.text? source.text) = first :: rest) :
    render m record = shown (pick first rest) := by
  rw [render, hm]
  dsimp only
  rw [combine, combines, extreme, hd]
  dsimp only
  rw [decimalText, Option.bind_some, shown]
  cases Decimal.shortPlain? working (pick first rest) with
  | some text => rfl
  | none => rfl

/-- Which number is picked, and so what is shown, does not depend on the order of the sources. -/
theorem exists_picked {Extremal : Set ℚ → ℚ → Prop}
    (picks : ∀ first rest, Extremal {x | ∃ d ∈ first :: rest, d.value = x} (pick first rest).value)
    (unique : ∀ {numbers : Set ℚ} {x y : ℚ}, Extremal numbers x → Extremal numbers y → x = y)
    (combines : ∀ values delimiter defaultValue,
      combineTexts values delimiter defaultValue operation = extreme pick values defaultValue)
    (numeric : (numbers record sources).Nonempty) :
    ∃ x outcome, Extremal (numbers record sources) x ∧ ShowsRounded x outcome ∧
      ∀ (m : Mapping) (others : List NonBlank) (delimiter : Text) (filled : others ≠ []), others.Perm sources →
        m.transformation = .composite others delimiter operation filled → render m record = outcome := by
  have several : ∀ {list : List NonBlank}, (numbers record list).Nonempty →
      ∃ first rest, decimals (list.map fun source => record.text? source.text) = first :: rest ∧
        Extremal (numbers record list) (pick first rest).value := by
    rintro list ⟨x, hx⟩
    rw [numbers_eq] at hx ⊢
    obtain ⟨d, member, -⟩ := hx
    obtain ⟨first, rest, hd⟩ := List.exists_cons_of_ne_nil (List.ne_nil_of_mem member)
    exact ⟨first, rest, hd, hd ▸ picks first rest⟩
  obtain ⟨first, rest, -, extremal⟩ := several numeric
  refine ⟨_, _, extremal, showsRounded_shown _, ?_⟩
  -- In another order there are the same numbers, so the one that is picked is the same, though its decimal may differ.
  intro m others delimiter filled same hm
  obtain ⟨first', rest', hd, extremal'⟩ := several (numbers_perm same ▸ numeric)
  rw [numbers_perm same] at extremal'
  rw [render_pick combines hm hd, shown_congr (unique extremal' extremal)]

end

/-- A minimum shows the least of the numbers among its sources and a maximum the greatest, as that number is rounded.
So they show it exactly just when it has no more digits than are kept, and they do so in every order of the sources. -/
theorem render_extreme (numeric : (numbers record sources).Nonempty) :
    (∃ x outcome, IsLeast (numbers record sources) x ∧ ShowsRounded x outcome ∧
      ∀ (m : Mapping) (others : List NonBlank) (delimiter : Text) (filled : others ≠ []), others.Perm sources →
        m.transformation = .composite others delimiter .min filled → render m record = outcome) ∧
    ∃ x outcome, IsGreatest (numbers record sources) x ∧ ShowsRounded x outcome ∧
      ∀ (m : Mapping) (others : List NonBlank) (delimiter : Text) (filled : others ≠ []), others.Perm sources →
        m.transformation = .composite others delimiter .max filled → render m record = outcome :=
  ⟨exists_picked Decimal.isLeast_minimum IsLeast.unique (fun _ _ _ => rfl) numeric,
    exists_picked Decimal.isGreatest_maximum IsGreatest.unique (fun _ _ _ => rfl) numeric⟩

theorem numeric_mixed : (numbers mixedRecord mixedSources).Nonempty :=
  ⟨_, ⟨['Y'], by decide⟩, by decide, ⟨true, 1, -1⟩, by decide +kernel, rfl⟩

theorem render_extreme_mixed : (numbers mixedRecord mixedSources).Nonempty ∧
    ∃ x outcome, IsLeast (numbers mixedRecord mixedSources) x ∧ ShowsRounded x outcome ∧
      ∀ (m : Mapping) (others : List NonBlank) (delimiter : Text) (filled : others ≠ []), others.Perm mixedSources →
        m.transformation = .composite others delimiter .min filled → render m mixedRecord = outcome :=
  ⟨numeric_mixed, (render_extreme numeric_mixed).1⟩

/-! ### A number with a digit too many -/

/-- A field that shows the least of one source. -/
def leastOfOne : Mapping :=
  ⟨"LEAST", 1, 29, .composite [firstSource] [] .min (List.cons_ne_nil _ _), .right, ' ', "STRING", none, Nat.one_pos,
    Nat.succ_pos 28⟩

def longRecord : Record := [(['X'], .text "12345678901234567890123456789")]

/-- The last of its digits is rounded away, so the field shows another number than the only one there is. -/
theorem render_longRecord : render leastOfOne longRecord = .ok "12345678901234567890123456790" ∧
    numbers longRecord [firstSource] = {12345678901234567890123456789} ∧
    ¬IsPlain "12345678901234567890123456790" 12345678901234567890123456789 := by
  have value : Decimal.value ⟨false, 12345678901234567890123456789, 0⟩ = 12345678901234567890123456789 := by
    norm_num [Decimal.value, Decimal.signed]
  have rounded : Decimal.value ⟨false, 1234567890123456789012345679, 1⟩ = 12345678901234567890123456790 := by
    norm_num [Decimal.value, Decimal.signed]
  have written : Decimal.plain ⟨false, 1234567890123456789012345679, 1⟩ = "12345678901234567890123456790" := by
    decide +kernel
  have shows : IsPlain "12345678901234567890123456790" 12345678901234567890123456790 := by
    have plain := Decimal.isPlain_plain (d := ⟨false, 1234567890123456789012345679, 1⟩) (by decide)
    rwa [written, rounded] at plain
  refine ⟨by decide +kernel, ?_, ?_⟩
  · have found : decimals ([firstSource].map fun source : NonBlank => longRecord.text? source.text) =
        [⟨false, 12345678901234567890123456789, 0⟩] := by decide +kernel
    rw [numbers_eq, found]
    ext x
    simp [value, eq_comm]
  · intro plain
    have same := plain.value_unique shows
    norm_num at same

end FixedExtract.Layout
