import FixedExtract.Proofs.Decimal.Rounding
import FixedExtract.Proofs.Layout.Line
/-!
# Degraded fields

A malformed expression empties its field and leaves a warning; the other fields of the line and the other
lines are what they would be without it. Two things do not degrade their field but stop the whole batch:
decimal arithmetic that overflows, and a field too wide to be filled. So a batch is rendered exactly when
neither happens in any field of any record.
-/

namespace FixedExtract.Layout

open Decimal (working)

/-! ## Decimal arithmetic -/

/-- The arithmetic of an operation on the texts of its sources does not overflow: no sum on the way does,
and neither does the mean or the rounding of an extreme. -/
def CompositeOperation.InRange (values : List (Option Text)) : CompositeOperation → Prop
  | .sum => ∃ total, Decimal.sum? working (decimals values) = some total
  | .avg => ∃ total mean, Decimal.sum? working (decimals values) = some total ∧
      Decimal.divNat? working total values.length = some mean
  | .min => ∀ first rest, decimals values = first :: rest →
      ∃ rounded, Decimal.round? working (Decimal.minimum first rest) = some rounded
  | .max => ∀ first rest, decimals values = first :: rest →
      ∃ rounded, Decimal.round? working (Decimal.maximum first rest) = some rounded
  | .concat | .upper | .lower | .trim => True

/-- A result is written exactly when it is rounded without overflow. -/
theorem exists_decimalText_iff {result : Option Decimal} :
    (∃ text, decimalText result = .ok text) ↔
      ∃ d, result = some d ∧ ∃ rounded, Decimal.round? working d = some rounded := by
  unfold decimalText
  cases result with
  | none => simp
  | some d =>
    have written := Decimal.shortPlain?_isSome working d
    simp only [Option.bind_some, Option.some.injEq, exists_eq_left', ← Option.isSome_iff_exists,
      ← written]
    cases Decimal.shortPlain? working d <;> simp

theorem exists_extreme_iff {pick : Decimal → List Decimal → Decimal} {values : List (Option Text)}
    {defaultValue : Option Text} :
    (∃ text, extreme pick values defaultValue = .ok text) ↔
      ∀ first rest, decimals values = first :: rest →
        ∃ rounded, Decimal.round? working (pick first rest) = some rounded := by
  unfold extreme
  cases decimals values with
  | nil => simp
  | cons first rest =>
    simp only [exists_decimalText_iff, Option.some.injEq, exists_eq_left', List.cons.injEq]
    constructor
    · rintro rounded _ _ ⟨rfl, rfl⟩
      exact rounded
    · intro h
      exact h first rest ⟨rfl, rfl⟩

/-- Values are combined exactly when the arithmetic stays in range. -/
theorem exists_combineTexts_iff {values : List (Option Text)} {delimiter : Text}
    {defaultValue : Option Text} {operation : CompositeOperation} :
    (∃ text, combineTexts values delimiter defaultValue operation = .ok text) ↔
      operation.InRange values := by
  cases operation with
  | sum =>
    rw [combineTexts, exists_decimalText_iff]
    constructor
    · rintro ⟨total, ht, -⟩
      exact ⟨total, ht⟩
    · rintro ⟨total, ht⟩
      have fits := Decimal.sum?_fits Decimal.working_proper ht
      exact ⟨total, ht, Option.isSome_iff_exists.1 fits.round?_isSome⟩
  | avg =>
    rw [combineTexts, exists_decimalText_iff]
    simp only [Option.bind_eq_some_iff]
    constructor
    · rintro ⟨mean, ⟨total, ht, hm⟩, -⟩
      exact ⟨total, mean, ht, hm⟩
    · rintro ⟨total, mean, ht, hm⟩
      have fits := Decimal.divNat?_fits Decimal.working_proper hm
      exact ⟨mean, ⟨total, ht, hm⟩, Option.isSome_iff_exists.1 fits.round?_isSome⟩
  | min => exact exists_extreme_iff
  | max => exact exists_extreme_iff
  | concat | upper | lower | trim => exact ⟨fun _ => True.intro, fun _ => ⟨_, rfl⟩⟩

/-! ## Fields -/

section
variable {m : Mapping} {record : Record}

/-- The arithmetic that the mapping asks for does not overflow on the record. -/
def InRange (m : Mapping) (record : Record) : Prop :=
  match m.transformation with
  | .composite sources _ operation _ =>
    operation.InRange (sources.map fun source => record.text? source.text)
  | _ => True

theorem render_eq_overflow_iff : render m record = .error .overflow ↔ ¬ InRange m record := by
  unfold render InRange
  cases m.transformation with
  | source field => simp
  | constant value => simp
  | composite sources delimiter operation nonEmpty =>
    have combined : (∃ text, combineTexts (sources.map fun source => record.text? source.text)
        delimiter m.defaultValue operation = .ok text) ↔ _ := exists_combineTexts_iff
    simp only [← combined, combine]
    cases combineTexts (sources.map fun source => record.text? source.text) delimiter
        m.defaultValue operation with
    | ok text => simp
    | error overflowed => simp
  | conditional conditions nonEmpty =>
    simp only [not_true_eq_false, iff_false]
    cases choose conditions record m.defaultValue <;> simp

/-- The text that is fitted to a field: the value that is derived, or nothing when there is none. -/
def fittedText (m : Mapping) (record : Record) : Text :=
  match render m record with
  | .ok raw => raw
  | .error _ => []

/-- The field does not stop a batch: its arithmetic stays in range, and it is no wider than its text or no
wider than what can be filled. -/
def Renderable (m : Mapping) (record : Record) : Prop :=
  InRange m record ∧ (m.length ≤ (fittedText m record).length ∨ m.length ≤ maxStored)

theorem exists_renderField_iff :
    (∃ field, renderField m record = .ok field) ↔ Renderable m record := by
  have overflow : render m record = .error .overflow ↔ ¬ InRange m record := render_eq_overflow_iff
  unfold Renderable fittedText
  simp only [renderField_eq_ok_iff, derived?, ← widthFault?_eq_none_iff]
  cases rendered : render m record with
  | ok raw =>
    have inRange : InRange m record := by
      by_contra outside
      rw [overflow.2 outside] at rendered
      cases rendered
    simp [inRange]
  | error fault =>
    cases fault with
    | expression fault =>
      have inRange : InRange m record := by
        by_contra outside
        rw [overflow.2 outside] at rendered
        cases rendered
      simp [inRange]
    | overflow =>
      have outside := overflow.1 rendered
      simp [outside]

/-- What the field of a mapping shows: the fitted value, or padding and one warning when an expression is
malformed. -/
def Shows (m : Mapping) (record : Record) (field : RenderedField) : Prop :=
  match render m record with
  | .ok raw => field = fitField m record raw []
  | .error (.expression fault) =>
    field = ⟨m.name, List.replicate m.length m.padChar, [], false, [.invalidCondition m.name fault]⟩
  | .error .overflow => False

theorem shows_of_renderField {field : RenderedField} (h : renderField m record = .ok field) :
    Shows m record field := by
  obtain ⟨raw, warnings, derived, -, rfl⟩ := renderField_eq_ok_iff.1 h
  unfold derived? at derived
  unfold Shows
  cases rendered : render m record with
  | ok text =>
    rw [rendered] at derived
    cases derived
    rfl
  | error fault =>
    rw [rendered] at derived
    cases fault with
    | overflow => cases derived
    | expression fault =>
      cases derived
      -- Only a conditional has expressions, and no source field is missing there.
      have noSource : sourceWarning? m record = none := by
        unfold render at rendered
        unfold sourceWarning?
        cases transformation : m.transformation with
        | source field => simp [transformation] at rendered
        | constant _ | composite _ _ _ _ | conditional _ _ => rfl
      simp [fitField, noSource, position_nil]

end

/-! ## Batches -/

section
variable {config : Config} {record : Record}

theorem exists_renderLine_iff {number : Nat} :
    (∃ line, renderLine config record number = .ok line) ↔
      ∀ m ∈ config.mappings, Renderable m record := by
  simp only [renderLine_eq_ok_iff, ← exists_renderField_iff]
  constructor
  · rintro ⟨line, -, fields⟩ m hm
    obtain ⟨field, -, rendered⟩ := exists_of_forall₂_left fields m (mem_ordered_iff.2 hm)
    exact ⟨field, rendered⟩
  · intro h
    obtain ⟨fields, hf⟩ := exists_forall₂ fun m hm => h m (mem_ordered_iff.1 hm)
    exact ⟨⟨number, fields⟩, rfl, hf⟩

theorem exists_renderLines_iff {records : List Record} :
    (∃ lines, renderLines config records = .ok lines) ↔
      ∀ record ∈ records, ∀ m ∈ config.mappings, Renderable m record := by
  simp only [renderLines, renderLinesFrom_eq_ok_iff]
  constructor
  · rintro ⟨lines, h⟩ record hr
    rw [← List.zipIdx_map_fst 1 records, List.mem_map] at hr
    obtain ⟨entry, he, rfl⟩ := hr
    obtain ⟨line, -, rendered⟩ := exists_of_forall₂_left h entry he
    exact exists_renderLine_iff.1 ⟨line, rendered⟩
  · intro h
    apply exists_forall₂
    intro entry he
    exact exists_renderLine_iff.2 (h entry.1 (List.fst_mem_of_mem_zipIdx he))

end

/-- A layout of one field, which holds the sum of two fields of the record. -/
def sumLayout : Config where
  sourceSystem := "CORE"
  jobName := "daily"
  transactionType := "default"
  mappings := [⟨"TOTAL", 1, 4, .composite [⟨['A'], by decide⟩, ⟨['B'], by decide⟩] [] .sum (by decide),
    .right, ' ', "STRING", none, Nat.one_pos, Nat.succ_pos 3⟩]
  version := 1
  lastModified := none

/-- A batch of two records, of which the first has a sum beyond the largest exponent. -/
def sumRecords : List Record :=
  [[(['A'], .text "9E999999"), (['B'], .text "9E999999")],
    [(['A'], .text ['1']), (['B'], .text ['2'])]]

end FixedExtract.Layout
