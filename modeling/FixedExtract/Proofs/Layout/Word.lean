import FixedExtract.Layout.Kind
import FixedExtract.Proofs.Traversal
import Mathlib.Data.List.TakeWhile
/-!
# Words of a layout

A word names a member of a closed set when it is that member's name, white space around it and case
aside. The readers of the three sets succeed on exactly the words that name something, and every member
is read back from its own name.
-/

namespace FixedExtract

namespace Text

/-! ## Blank text -/

theorem strip_eq_nil_of_isBlank {text : Text} (h : isBlank text = true) : strip text = [] := by
  have dropped : text.dropWhile isSpace = [] := by
    rw [List.dropWhile_eq_nil_iff]
    exact List.all_eq_true.1 h
  rw [strip, trimBy, dropped]
  rfl

/-- The text is there and not blank. -/
def Present (text : Option Text) : Prop := ∃ t, text = some t ∧ isBlank t = false

theorem isBlank?_eq_false_iff {text : Option Text} : isBlank? text = false ↔ Present text := by
  cases text with
  | none => simp [isBlank?, Present]
  | some t => simp [isBlank?, Present]

/-- A present text is what passes the filter for text that is not blank. -/
theorem filter_nonBlank_eq_some_iff {text : Option Text} {t : Text} :
    text.filter (fun t => !isBlank t) = some t ↔ text = some t ∧ isBlank t = false := by
  rw [Option.filter_eq_some_iff]
  simp

theorem filter_nonBlank_eq_none_iff {text : Option Text} :
    text.filter (fun t => !isBlank t) = none ↔ ¬ Present text := by
  rw [Option.filter_eq_none_iff]
  simp [Present]

end Text

namespace Layout

/-! ## Kinds, sides and operations -/

namespace TransformationKind

theorem ofName?_name (kind : TransformationKind) : ofName? kind.name = some kind := by
  cases kind <;> decide

/-- A text names the kind whose name it is. -/
theorem ofText?_eq_some_iff {text : Text} {kind : TransformationKind} :
    ofText? text = some kind ↔ kind.name = Text.lower (Text.strip text) :=
  find?_name_eq_some_iff ofName?_name

theorem ofText?_name (kind : TransformationKind) : ofText? kind.name = some kind := by
  cases kind <;> decide

/-- What names a kind is not blank. -/
theorem isBlank_eq_false_of_ofText? {text : Text} {kind : TransformationKind}
    (h : ofText? text = some kind) : Text.isBlank text = false := by
  rw [Bool.eq_false_iff]
  intro blank
  have name := ofText?_eq_some_iff.1 h
  rw [Text.strip_eq_nil_of_isBlank blank] at name
  cases kind <;> exact absurd name (by decide)

end TransformationKind

namespace PadSide

theorem ofName?_name (side : PadSide) : ofName? side.name = some side := by
  cases side <;> decide

/-- A text names the side whose name it is. -/
theorem ofText?_eq_some_iff {text : Text} {side : PadSide} :
    ofText? text = some side ↔ side.name = Text.lower (Text.strip text) :=
  find?_name_eq_some_iff ofName?_name

theorem ofText?_name (side : PadSide) : ofText? side.name = some side := by
  cases side <;> decide

end PadSide

namespace CompositeOperation

theorem ofName?_name (operation : CompositeOperation) : ofName? operation.name = some operation := by
  cases operation <;> decide

/-- The text stands for the operation: blank text for concatenation, and any other for the one whose
name it is when its long form has been replaced. -/
def IsWrittenAs (operation : CompositeOperation) (text : Text) : Prop :=
  if Text.isBlank text then operation = .concat else operation.name = canonicalName text

theorem ofText?_eq_some_iff {text : Text} {operation : CompositeOperation} :
    ofText? text = some operation ↔ operation.IsWrittenAs text := by
  unfold ofText? IsWrittenAs
  split
  · exact ⟨fun h => (Option.some.inj h).symm, fun h => h ▸ rfl⟩
  · exact find?_name_eq_some_iff ofName?_name

theorem ofText?_name (operation : CompositeOperation) :
    ofText? operation.name = some operation := by
  cases operation <;> decide

end CompositeOperation

/-! ## Reading words -/

@[simp] theorem readKind_name (kind : TransformationKind) : readKind kind.name = .ok kind := by
  rw [readKind, TransformationKind.ofText?_name]

theorem readKind_eq_ok {text : Text} {kind : TransformationKind} :
    readKind text = .ok kind ↔ TransformationKind.ofText? text = some kind := by
  unfold readKind
  cases TransformationKind.ofText? text <;> simp

@[simp] theorem readPadSide_name (side : PadSide) : readPadSide (some side.name) = .ok side := by
  rw [readPadSide, PadSide.ofText?_name]

theorem readPadSide_some_eq_ok {text : Text} {side : PadSide} :
    readPadSide (some text) = .ok side ↔ PadSide.ofText? text = some side := by
  rw [readPadSide]
  cases PadSide.ofText? text <;> simp

@[simp] theorem readOperation_name (operation : CompositeOperation) :
    readOperation (some operation.name) = .ok operation := by
  rw [readOperation, CompositeOperation.ofText?_name]

theorem readOperation_some_eq_ok {text : Text} {operation : CompositeOperation} :
    readOperation (some text) = .ok operation ↔
      CompositeOperation.ofText? text = some operation := by
  rw [readOperation]
  cases CompositeOperation.ofText? text <;> simp

end Layout
end FixedExtract
