import FixedExtract.Layout.Rendering
import FixedExtract.Proofs.Traversal
import Mathlib.Algebra.BigOperators.Group.List.Basic
import Mathlib.Algebra.Ring.Int.Defs
import Mathlib.Data.Nat.Cast.Basic
/-!
# Lines of fitted fields

A line is put together from its fields, and every field is as wide as its mapping says. So the width of a
line is the width of its layout, whatever the record holds and however much of it could be rendered.
-/

namespace FixedExtract.Layout

variable {config : Config} {m : Mapping} {record : Record}

/-! ## Fitting -/

/-- A fitted text has the length it was fitted to. -/
theorem length_position (text : Text) (length : Nat) (pad : PadSide) (padChar : Char) :
    (position text length pad padChar).length = length := by
  have taken : (text.take length).length = min length text.length := List.length_take
  cases pad with
  | left =>
    rw [position, List.length_append, List.length_replicate, taken]
    omega
  | right =>
    rw [position, List.length_append, List.length_replicate, taken]
    omega

/-- Where there is no text, the whole field is filling. -/
theorem position_nil (length : Nat) (pad : PadSide) (padChar : Char) :
    position [] length pad padChar = List.replicate length padChar := by
  cases pad <;> simp [position]

/-- A field can be filled when it is no wider than the text or no wider than what a store holds. -/
theorem widthFault?_eq_none_iff {actual length : Nat} :
    widthFault? actual length = none ↔ length ≤ actual ∨ length ≤ maxStored := by
  have smaller : maxStored < lastAddress := by decide
  unfold widthFault?
  by_cases covered : length ≤ actual
  · rw [if_pos covered]
    exact iff_of_true rfl (Or.inl covered)
  · rw [if_neg covered]
    by_cases unaddressable : lastAddress < length
    · rw [if_pos unaddressable]
      refine iff_of_false (by simp) ?_
      omega
    · rw [if_neg unaddressable]
      by_cases unstorable : maxStored < length
      · rw [if_pos unstorable]
        refine iff_of_false (by simp) ?_
        omega
      · rw [if_neg unstorable]
        refine iff_of_true rfl (Or.inr ?_)
        omega

/-! ## Fields -/

/-- The text that is fitted to a field, with the warnings that deriving it left: a value, or nothing at
all when an expression is malformed. Overflow leaves no text. -/
def derived? (m : Mapping) (record : Record) : Option (Text × List Warning) :=
  match render m record with
  | .ok raw => some (raw, [])
  | .error (.expression fault) => some ([], [.invalidCondition m.name fault])
  | .error .overflow => none

/-- A field is rendered exactly when there is a text for it that can be fitted. -/
theorem renderField_eq_ok_iff {field : RenderedField} :
    renderField m record = .ok field ↔
      ∃ raw warnings, derived? m record = some (raw, warnings) ∧
        widthFault? raw.length m.length = none ∧ field = fitField m record raw warnings := by
  have fitted : ∀ raw warnings, fitField? m record raw warnings = .ok field ↔
      widthFault? raw.length m.length = none ∧ field = fitField m record raw warnings := by
    intro raw warnings
    unfold fitField?
    cases widthFault? raw.length m.length with
    | none => simp [eq_comm]
    | some fault => simp
  unfold renderField derived?
  cases render m record with
  | ok raw => simp [fitted]
  | error fault =>
    cases fault with
    | expression fault => simp [fitted]
    | overflow => simp

theorem length_value_of_renderField {field : RenderedField} (h : renderField m record = .ok field) :
    field.value.length = m.length := by
  obtain ⟨raw, warnings, -, -, rfl⟩ := renderField_eq_ok_iff.1 h
  exact length_position raw m.length m.pad m.padChar

/-! ## Lines -/

/-- The fields of a line are those of the layout, by position. -/
theorem ordered_perm (config : Config) : config.ordered.Perm config.mappings :=
  List.mergeSort_perm _ _

theorem mem_ordered_iff : m ∈ config.ordered ↔ m ∈ config.mappings := (ordered_perm config).mem_iff

/-- The width of a line is the sum of the lengths of its fields, in whatever order they stand. -/
theorem recordLength_eq_sum (config : Config) :
    config.recordLength = (config.ordered.map Mapping.length).sum := by
  rw [((ordered_perm config).map Mapping.length).sum_eq]
  rfl

theorem recordLength_cast (config : Config) :
    (config.recordLength : Int) = (config.mappings.map fun m => (m.length : Int)).sum := by
  have cast := map_list_sum (Nat.castAddMonoidHom Int) (config.mappings.map Mapping.length)
  rw [List.map_map] at cast
  exact cast

theorem renderLine_eq_ok_iff {number : Nat} {line : RenderedLine} :
    renderLine config record number = .ok line ↔
      line.number = number ∧
        List.Forall₂ (fun m field => renderField m record = .ok field) config.ordered line.fields := by
  rw [renderLine, map_eq_ok_iff]
  simp only [mapM_eq_ok_iff]
  constructor
  · rintro ⟨fields, h, rfl⟩
    exact ⟨rfl, h⟩
  · rintro ⟨rfl, h⟩
    exact ⟨line.fields, h, rfl⟩

/-- A line is as wide as its layout. -/
theorem length_text_of_renderLine {number : Nat} {line : RenderedLine}
    (h : renderLine config record number = .ok line) : line.text.length = config.recordLength := by
  obtain ⟨-, fields⟩ := renderLine_eq_ok_iff.1 h
  have widths : config.ordered.map Mapping.length =
      line.fields.map fun field => field.value.length :=
    map_eq_map_of_forall₂ fields fun m field hf => (length_value_of_renderField hf).symm
  rw [RenderedLine.text, List.length_flatMap, recordLength_eq_sum, widths]

/-! ## Batches -/

/-- The lines of a batch are the lines of its records, numbered in order. -/
theorem renderLinesFrom_eq_ok_iff {records : List Record} {number : Nat} {lines : List RenderedLine} :
    renderLinesFrom config number records = .ok lines ↔
      List.Forall₂ (fun entry line => renderLine config entry.1 entry.2 = .ok line)
        (records.zipIdx number) lines := by
  induction records generalizing number lines with
  | nil =>
    rw [renderLinesFrom, List.zipIdx_nil, List.forall₂_nil_left_iff]
    constructor
    · intro h
      cases h
      rfl
    · rintro rfl
      rfl
  | cons record rest ih =>
    rw [renderLinesFrom, bind_eq_ok_iff, List.zipIdx_cons, List.forall₂_cons_left_iff]
    constructor
    · rintro ⟨line, hl, h⟩
      rw [bind_eq_ok_iff] at h
      obtain ⟨others, ho, h⟩ := h
      cases h
      exact ⟨line, others, hl, ih.1 ho, rfl⟩
    · rintro ⟨line, others, hl, ho, rfl⟩
      refine ⟨line, hl, ?_⟩
      rw [bind_eq_ok_iff]
      exact ⟨others, ih.2 ho, rfl⟩

end FixedExtract.Layout
