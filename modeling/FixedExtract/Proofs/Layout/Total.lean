import FixedExtract.Layout.Rendering
import FixedExtract.Proofs.Decimal.Exact
import FixedExtract.Proofs.Decimal.Plain
/-!
# Sums and averages

A sum counts its sources, a missing one or one that is no number for nothing. Where the sources are multiples of one
unit, and few enough of them, the field shows the exact sum, and the average of the sources rounded once. The order of
the sources makes no difference to either.
-/

namespace FixedExtract.Layout

open Decimal (IsPlain Rounds RoundsToDigits Units working working_proper)

/-- What a source counts for: its number, or nothing when it is missing or no number. -/
def amount (record : Record) (source : NonBlank) : ℚ :=
  ((record.text? source.text).bind Decimal.read?).elim 0 Decimal.value

/-- The exact sum of the sources. -/
def total (record : Record) (sources : List NonBlank) : ℚ := (sources.map (amount record)).sum

/-- At some scale every source is a whole number of units, and there are few units in all. -/
def FewUnits (record : Record) (sources : List NonBlank) : Prop :=
  ∃ (s : ℕ) (k : NonBlank → ℤ), s ≤ 28 ∧
    (∀ source ∈ sources, amount record source = k source * 10 ^ (-(s : ℤ))) ∧
    (sources.map fun source => |k source|).sum < 10 ^ 28

variable {record : Record} {sources others : List NonBlank}

theorem total_perm (same : others.Perm sources) : total record others = total record sources :=
  (same.map (amount record)).sum_eq

theorem FewUnits.perm (few : FewUnits record sources) (same : others.Perm sources) : FewUnits record others := by
  obtain ⟨s, k, scale, units, small⟩ := few
  refine ⟨s, k, scale, fun source hs => units source (same.subset hs), ?_⟩
  rwa [(same.map fun source => |k source|).sum_eq]

/-! ## The sum -/

/-- The decimals that are summed have the units of the sources, because the others have none. -/
theorem exists_units {k : NonBlank → ℤ} {u : ℤ} (units : ∀ source ∈ sources, amount record source = k source * 10 ^ u) :
    ∃ ks, List.Forall₂ (fun d j => Units u j d) (decimals (sources.map fun source => record.text? source.text)) ks ∧
      ks.sum = (sources.map k).sum ∧ (ks.map abs).sum = (sources.map fun source => |k source|).sum := by
  induction sources with
  | nil => exact ⟨[], .nil, rfl, rfl⟩
  | cons source rest ih =>
    obtain ⟨ks, matched, sum, size⟩ := ih fun other ho => units other (List.mem_cons_of_mem source ho)
    have counted := units source List.mem_cons_self
    unfold amount at counted
    cases hd : (record.text? source.text).bind Decimal.read? with
    | none =>
      -- A source that is no number has no units, and its decimal is missing.
      rw [hd, Option.elim_none, eq_comm, mul_eq_zero, or_iff_left (Decimal.ten_zpow_pos u).ne'] at counted
      have none : k source = 0 := by exact_mod_cast counted
      refine ⟨ks, ?_, ?_, ?_⟩
      · rw [List.map_cons, decimals, List.filterMap_cons, hd]
        exact matched
      · rw [List.map_cons, List.sum_cons, none, zero_add, sum]
      · rw [List.map_cons, List.sum_cons, none, abs_zero, zero_add, size]
    | some d =>
      rw [hd, Option.elim_some] at counted
      refine ⟨k source :: ks, ?_, ?_, ?_⟩
      · rw [List.map_cons, decimals, List.filterMap_cons, hd]
        exact .cons counted matched
      · rw [List.map_cons, List.sum_cons, List.sum_cons, sum]
      · rw [List.map_cons, List.sum_cons, List.map_cons, List.sum_cons, size]

theorem total_eq {k : NonBlank → ℤ} {u : ℤ} (units : ∀ source ∈ sources, amount record source = k source * 10 ^ u) :
    total record sources = (sources.map k).sum * 10 ^ u := by
  unfold total
  induction sources with
  | nil => simp
  | cons source rest ih =>
    rw [List.map_cons, List.sum_cons, List.map_cons, List.sum_cons, units source List.mem_cons_self,
      ih fun other ho => units other (List.mem_cons_of_mem source ho)]
    push_cast
    ring

/-- The sum is exact, below the next power of ten and, unless it is zero, at least one unit. -/
theorem FewUnits.exists_sum? (few : FewUnits record sources) :
    ∃ t, Decimal.sum? working (decimals (sources.map fun source => record.text? source.text)) = some t ∧
      t.value = total record sources ∧ Decimal.Keeps working t.value ∧ |t.value| < 10 ^ (28 : ℤ) ∧
      (t.value ≠ 0 → 10 ^ (-28 : ℤ) ≤ |t.value|) := by
  obtain ⟨s, k, scale, units, small⟩ := few
  obtain ⟨ks, matched, sum, size⟩ := exists_units units
  have place : working.Place (-(s : ℤ)) := by
    constructor
    · show (-999999 : ℤ) - ((28 : ℕ) - 1) ≤ _
      omega
    · show -(s : ℤ) + (28 : ℕ) ≤ 999999 + 1
      omega
  have few : (ks.map abs).sum < 10 ^ working.digits := by rwa [size]
  obtain ⟨t, ht, value, total⟩ := Decimal.exists_sum? working_proper place matched few
  refine ⟨t, ht, ?_, ⟨_, _, value, total, place.least⟩, ?_, ?_⟩
  · rw [total_eq units, ← sum]
    exact value
  · refine (value.abs_lt total).trans_le (Decimal.ten_zpow_le ?_)
    show -(s : ℤ) + (28 : ℕ) ≤ 28
    omega
  · intro nonzero
    refine (Decimal.ten_zpow_le ?_).trans (value.unit_le nonzero)
    omega

/-- Sums show the exact sum. -/
theorem combine_sum (few : FewUnits record sources) (delimiter : Text) (defaultValue : Option Text) :
    ∃ text, combine sources delimiter .sum record defaultValue = .ok text ∧ IsPlain text (total record sources) := by
  obtain ⟨t, ht, value, keeps, below, -⟩ := few.exists_sum?
  have inRange : |t.value| < 10 ^ (working.maxExponent + 1) := by
    refine below.trans_le (Decimal.ten_zpow_le ?_)
    decide
  obtain ⟨text, written, plain⟩ := Decimal.exists_shortPlain? working_proper keeps inRange
  refine ⟨text, ?_, value ▸ plain⟩
  rw [combine, combineTexts, ht, decimalText, Option.bind_some, written]

/-! ## The average -/

/-- Averages show the exact quotient by the number of sources, rounded once. -/
theorem combine_avg (nonEmpty : sources ≠ []) (few : FewUnits record sources) (delimiter : Text)
    (defaultValue : Option Text) :
    ∃ text mean, combine sources delimiter .avg record defaultValue = .ok text ∧
      Rounds working (total record sources / sources.length) mean ∧ IsPlain text mean := by
  obtain ⟨t, ht, value, -, below, -⟩ := few.exists_sum?
  have positive := List.length_pos_iff.2 nonEmpty
  have inRange : |t.value| < 10 ^ working.maxExponent := by
    refine below.trans_le (Decimal.ten_zpow_le ?_)
    decide
  obtain ⟨r, hr⟩ := Decimal.exists_divNat? working_proper (by decide) positive inRange
  -- The quotient is rounded when it is taken, and writing it does not change it again.
  have rounds := Decimal.divNat?_rounds working_proper positive hr
  have keeps := rounds.keeps working_proper.digits_pos
  have fits := (Decimal.divNat?_fits working_proper hr).abs_value_lt
  obtain ⟨text, written, plain⟩ := Decimal.exists_shortPlain? working_proper keeps fits
  refine ⟨text, r.value, ?_, value ▸ rounds, plain⟩
  rw [combine, combineTexts, ht, List.length_map, Option.bind_some, hr, decimalText, Option.bind_some, written]

/-- There are far fewer sources than it takes to make an average too small for all its digits. -/
theorem FewUnits.average_normal (few : FewUnits record sources) (fewer : sources.length ≤ lastAddress)
    (nonzero : total record sources / sources.length ≠ 0) :
    10 ^ working.minExponent ≤ |total record sources / sources.length| := by
  obtain ⟨t, -, value, -, -, least⟩ := few.exists_sum?
  rw [div_ne_zero_iff] at nonzero
  have unit := least (value ▸ nonzero.1)
  rw [value] at unit
  have positive : (0 : ℚ) < sources.length := lt_of_le_of_ne (Nat.cast_nonneg _) nonzero.2.symm
  have count : (sources.length : ℚ) ≤ 10 ^ (19 : ℤ) := by
    have bound : ((lastAddress : ℕ) : ℚ) ≤ 10 ^ (19 : ℤ) := by
      unfold lastAddress
      norm_num
    exact le_trans (Nat.cast_le.2 fewer) bound
  rw [abs_div, Nat.abs_cast, le_div_iff₀ positive]
  calc (10 : ℚ) ^ working.minExponent * sources.length
      ≤ 10 ^ working.minExponent * 10 ^ (19 : ℤ) := mul_le_mul_of_nonneg_left count (Decimal.ten_zpow_pos _).le
    _ = 10 ^ (working.minExponent + 19) := (zpow_add₀ (by norm_num) _ _).symm
    _ ≤ 10 ^ (-28 : ℤ) := Decimal.ten_zpow_le (by decide)
    _ ≤ |total record sources| := unit

/-! ## Fields -/

theorem render_eq_ok_of_combine {m : Mapping} {delimiter : Text} {operation : CompositeOperation}
    {filled : sources ≠ []} {text : Text}
    (hm : m.transformation = .composite sources delimiter operation filled)
    (h : combine sources delimiter operation record m.defaultValue = .ok text) : render m record = .ok text := by
  rw [render, hm]
  dsimp only
  rw [h]

/-- A sum shows the exact sum of its sources and an average their exact quotient rounded to the digits that are kept.
Both are in plain notation and the same for every order of the sources. -/
theorem render_total (nonEmpty : sources ≠ []) (few : FewUnits record sources) :
    (∃ text, IsPlain text (total record sources) ∧
      ∀ (m : Mapping) (others : List NonBlank) (delimiter : Text) (filled : others ≠ []), others.Perm sources →
        m.transformation = .composite others delimiter .sum filled → render m record = .ok text) ∧
    ∃ text mean, Rounds working (total record sources / sources.length) mean ∧
      (sources.length ≤ lastAddress → RoundsToDigits 28 (total record sources / sources.length) mean) ∧
      IsPlain text mean ∧
      ∀ (m : Mapping) (others : List NonBlank) (delimiter : Text) (filled : others ≠ []), others.Perm sources →
        m.transformation = .composite others delimiter .avg filled → render m record = .ok text := by
  constructor
  · obtain ⟨text, -, plain⟩ := combine_sum few [] none
    refine ⟨text, plain, ?_⟩
    intro m others delimiter filled same hm
    obtain ⟨text', combined, plain'⟩ := combine_sum (few.perm same) delimiter m.defaultValue
    rw [total_perm same] at plain'
    rw [plain.unique plain']
    exact render_eq_ok_of_combine hm combined
  · obtain ⟨text, mean, -, rounds, plain⟩ := combine_avg nonEmpty few [] none
    refine ⟨text, mean, rounds, fun fewer => rounds.toDigits (few.average_normal fewer), plain, ?_⟩
    intro m others delimiter filled same hm
    obtain ⟨text', mean', combined, rounds', plain'⟩ := combine_avg filled (few.perm same) delimiter m.defaultValue
    rw [total_perm same, same.length_eq] at rounds'
    rw [rounds.unique rounds'] at plain
    rw [plain.unique plain']
    exact render_eq_ok_of_combine hm combined

/-- A record of a number with a zero at its end, a negative one and a text that is none. -/
def mixedRecord : Record := [(['X'], .text "1.10"), (['Y'], .text "-0.1"), (['Z'], .text "n/a")]

def firstSource : NonBlank := ⟨['X'], by decide⟩

def mixedSources : List NonBlank := [firstSource, ⟨['Y'], by decide⟩, ⟨['Z'], by decide⟩]

/-- In tenths these are eleven, minus one and nothing. -/
def mixedTenths (source : NonBlank) : ℤ := if source.text = ['X'] then 11 else if source.text = ['Y'] then -1 else 0

theorem fewUnits_mixed : FewUnits mixedRecord mixedSources := by
  have read : ∀ {source : NonBlank} {d : Option Decimal},
      (mixedRecord.text? source.text).bind Decimal.read? = d → amount mixedRecord source = d.elim 0 Decimal.value := by
    rintro source d rfl
    rfl
  refine ⟨1, mixedTenths, by decide, ?_, by decide⟩
  intro source hs
  rw [mixedSources, List.mem_cons, List.mem_cons, List.mem_singleton] at hs
  rcases hs with rfl | rfl | rfl
  · rw [read (show _ = some ⟨false, 110, -2⟩ by decide +kernel)]
    show Decimal.value ⟨false, 110, -2⟩ = ((11 : ℤ) : ℚ) * _
    norm_num [Decimal.value, Decimal.signed]
  · rw [read (show _ = some ⟨true, 1, -1⟩ by decide +kernel)]
    show Decimal.value ⟨true, 1, -1⟩ = ((-1 : ℤ) : ℚ) * _
    norm_num [Decimal.value, Decimal.signed]
  · rw [read (show _ = none by decide +kernel)]
    show 0 = ((0 : ℤ) : ℚ) * _
    norm_num

theorem render_total_mixed : mixedSources ≠ [] ∧ FewUnits mixedRecord mixedSources ∧
    ∃ text, IsPlain text (total mixedRecord mixedSources) ∧
      ∀ (m : Mapping) (others : List NonBlank) (delimiter : Text) (filled : others ≠ []), others.Perm mixedSources →
        m.transformation = .composite others delimiter .sum filled → render m mixedRecord = .ok text :=
  ⟨by decide, fewUnits_mixed, (render_total (by decide) fewUnits_mixed).1⟩

end FixedExtract.Layout
