import FixedExtract.Proofs.Layout.Degradation
import FixedExtract.Proofs.Ordering
/-!
# Where fields stand

A reader of fixed-width lines finds a field by its offset. The fields of a line stand in the order of their
positions, each in a slice as wide as its mapping says, which starts where the fields in front of it end. What
stands in the slice is the raw text of the field, cut at its end or filled on one side.
-/

namespace FixedExtract.Layout

/-! ## The order of fields -/

/-- Mappings in ascending order of position, those of one position in the order they were declared in. -/
structure InOrder (declared ordered : List Mapping) : Prop where
  ascending : ordered.Pairwise fun a b => a.position ≤ b.position
  stable : ∀ place, ordered.filter (fun m => m.position = place) =
    declared.filter fun m => m.position = place

theorem inOrder_ordered (config : Config) : InOrder config.mappings config.ordered := by
  obtain ⟨-, ascending, stable⟩ := sortedBy_mergeSort Mapping.position config.mappings
  exact ⟨ascending, stable⟩

/-! ## Fitted fields -/

def Warning.isTruncation : Warning → Bool
  | .truncated .. => true
  | _ => false

/-- The field holds its raw text as the mapping wants it: the front of a text that is too long, which is
flagged and has one warning, or the whole text with filling on the side that is padded. -/
structure FittedTo (m : Mapping) (field : RenderedField) : Prop where
  cut : m.length < field.raw.length → field.value = field.raw.take m.length
  filled : field.raw.length ≤ m.length → field.value =
    match m.pad with
    | .left => List.replicate (m.length - field.raw.length) m.padChar ++ field.raw
    | .right => field.raw ++ List.replicate (m.length - field.raw.length) m.padChar
  flagged : field.truncated = true ↔ m.length < field.raw.length
  warned : field.warnings.filter Warning.isTruncation =
    if m.length < field.raw.length then [.truncated m.name field.raw.length m.length] else []

/-- A text that is too long is cut, and nothing is filled in. -/
theorem position_of_lt {text : Text} {length : Nat} (h : length < text.length) (pad : PadSide)
    (padChar : Char) : position text length pad padChar = text.take length := by
  have noFilling : length - text.length = 0 := by omega
  cases pad <;> simp [position, noFilling]

/-- A text that is not too long is kept whole. -/
theorem position_of_le {text : Text} {length : Nat} (h : text.length ≤ length) (pad : PadSide)
    (padChar : Char) : position text length pad padChar =
      match pad with
      | .left => List.replicate (length - text.length) padChar ++ text
      | .right => text ++ List.replicate (length - text.length) padChar := by
  have whole : text.take length = text := List.take_of_length_le h
  cases pad <;> simp [position, whole]

section
variable {m : Mapping} {record : Record}

/-- Of the warnings that are there before a text is cut, none is about that. -/
theorem filter_isTruncation_derived {raw : Text} {warnings : List Warning}
    (h : derived? m record = some (raw, warnings)) :
    (warnings ++ (sourceWarning? m record).toList).filter Warning.isTruncation = [] := by
  have ofValue : warnings.filter Warning.isTruncation = [] := by
    unfold derived? at h
    split at h
    · cases h
      rfl
    · cases h
      rfl
    · cases h
  have ofSource : (sourceWarning? m record).toList.filter Warning.isTruncation = [] := by
    unfold sourceWarning?
    split
    · split <;> rfl
    · rfl
  rw [List.filter_append, ofValue, ofSource, List.append_nil]

theorem fittedText_of_derived? {raw : Text} {warnings : List Warning}
    (h : derived? m record = some (raw, warnings)) : fittedText m record = raw := by
  unfold derived? at h
  unfold fittedText
  split at h
  · cases h
    simp [*]
  · cases h
    simp [*]
  · cases h

/-- A field that is rendered has the name of its mapping, the text that was derived for it, and this text
fitted to the mapping. -/
theorem fittedTo_of_renderField {field : RenderedField} (h : renderField m record = .ok field) :
    field.name = m.name ∧ field.raw = fittedText m record ∧ FittedTo m field := by
  obtain ⟨raw, warnings, derived, -, rfl⟩ := renderField_eq_ok_iff.1 h
  refine ⟨rfl, (fittedText_of_derived? derived).symm, ?_⟩
  constructor
  · intro long
    exact position_of_lt long m.pad m.padChar
  · intro short
    exact position_of_le short m.pad m.padChar
  · exact decide_eq_true_iff
  · have others := filter_isTruncation_derived derived
    simp only [fitField, List.filter_append, List.append_eq_nil_iff] at others ⊢
    rw [others.1, others.2]
    by_cases long : m.length < raw.length
    · simp [long, Warning.isTruncation]
    · simp [long]

end

/-! ## Slices of a line -/

/-- What stands behind the values of the first `k` fields is the value of the next one. -/
theorem take_drop_text {line : RenderedLine} {k : Nat} {field : RenderedField}
    (h : line.fields[k]? = some field) :
    (line.text.drop ((line.fields.take k).map fun f => f.value.length).sum).take field.value.length =
      field.value := by
  obtain ⟨bound, rfl⟩ := List.getElem?_eq_some_iff.1 h
  have split : line.text = (line.fields.take k).flatMap RenderedField.value ++
      (line.fields[k].value ++ (line.fields.drop (k + 1)).flatMap RenderedField.value) := by
    rw [RenderedLine.text, ← List.flatMap_cons, ← List.drop_eq_getElem_cons bound,
      ← List.flatMap_append, List.take_append_drop]
  rw [split, List.drop_left' List.length_flatMap, List.take_left' rfl]

/-- In a line that is rendered, the fields stand in the order of their positions, one for each mapping, and
the line is as wide as the layout. Behind the widths of the mappings in front of it, each mapping has its
field: the text that the record gives for it, cut or filled to the width of the mapping. -/
theorem renderLine_placed {config : Config} {record : Record} {number : Nat} {line : RenderedLine}
    (h : renderLine config record number = .ok line) :
    line.text.length = config.recordLength ∧
    InOrder config.mappings config.ordered ∧
    line.fields.length = config.ordered.length ∧
    ∀ k m, config.ordered[k]? = some m →
      ∃ field, line.fields[k]? = some field ∧ field.name = m.name ∧
        field.raw = fittedText m record ∧ FittedTo m field ∧
        (line.text.drop ((config.ordered.take k).map Mapping.length).sum).take m.length =
          field.value := by
  obtain ⟨-, fields⟩ := renderLine_eq_ok_iff.1 h
  refine ⟨length_text_of_renderLine h, inOrder_ordered config, fields.length_eq.symm, ?_⟩
  intro k m hm
  obtain ⟨bound, rfl⟩ := List.getElem?_eq_some_iff.1 hm
  have bound' : k < line.fields.length := fields.length_eq ▸ bound
  have rendered : renderField config.ordered[k] record = .ok line.fields[k] := fields.get bound bound'
  obtain ⟨name, raw, fitted⟩ := fittedTo_of_renderField rendered
  have found : line.fields[k]? = some line.fields[k] := List.getElem?_eq_getElem bound'
  refine ⟨line.fields[k], found, name, raw, fitted, ?_⟩
  have offset : (config.ordered.take k).map Mapping.length =
      (line.fields.take k).map fun field => field.value.length :=
    map_eq_map_of_forall₂ (List.forall₂_take k fields) fun m field hf =>
      (length_value_of_renderField hf).symm
  rw [offset, ← length_value_of_renderField rendered]
  exact take_drop_text found

/-! ### A position that is used twice -/

def nameMapping : Mapping :=
  ⟨"NAME", 2, 3, .source ⟨['N'], by decide⟩, .right, '.', "STRING", none, by decide, by decide⟩

def countMapping : Mapping :=
  ⟨"COUNT", 1, 4, .source ⟨['C'], by decide⟩, .left, '0', "STRING", none, by decide, by decide⟩

def markMapping : Mapping :=
  ⟨"MARK", 2, 2, .constant (some ['*']), .right, '.', "STRING", none, by decide, by decide⟩

/-- A layout of three fields, of which the first and the last that are declared share a position. -/
def sharedPositionLayout : Config where
  sourceSystem := "CORE"
  jobName := "daily"
  transactionType := "default"
  mappings := [nameMapping, countMapping, markMapping]
  version := 1
  lastModified := none

theorem ordered_sharedPositionLayout :
    sharedPositionLayout.ordered = [countMapping, nameMapping, markMapping] := by
  have name : nameMapping.position = 2 := rfl
  have count : countMapping.position = 1 := rfl
  have mark : markMapping.position = 2 := rfl
  have declared : sharedPositionLayout.mappings = [nameMapping, countMapping, markMapping] := rfl
  simp [Config.ordered, declared, List.mergeSort, List.MergeSort.Internal.splitInTwo, name, count, mark]

def sharedPositionRecord : Record := [(['N'], .text "Smith"), (['C'], .text "17")]

/-- The line of the record, in which the name is cut. -/
def sharedPositionLine : RenderedLine where
  number := 1
  fields :=
    [⟨"COUNT", "0017", "17", false, []⟩,
     ⟨"NAME", "Smi", "Smith", true, [.truncated "NAME" 5 3]⟩,
     ⟨"MARK", "*.", "*", false, []⟩]

/-- The mark, declared last, stands behind the four characters of the count and the three of the name. -/
theorem renderLine_placed_sharedPosition :
    renderLine sharedPositionLayout sharedPositionRecord 1 = .ok sharedPositionLine ∧
      sharedPositionLine.text.length = sharedPositionLayout.recordLength ∧
      ∃ field, sharedPositionLine.fields[2]? = some field ∧ field.name = "MARK".toList ∧
        (sharedPositionLine.text.drop 7).take 2 = field.value := by
  have rendered : renderLine sharedPositionLayout sharedPositionRecord 1 = .ok sharedPositionLine := by
    rw [renderLine, ordered_sharedPositionLayout]
    rfl
  obtain ⟨width, -, -, placed⟩ := renderLine_placed rendered
  rw [ordered_sharedPositionLayout] at placed
  obtain ⟨field, found, name, -, -, slice⟩ := placed 2 markMapping rfl
  exact ⟨rendered, width, field, found, name, slice⟩

end FixedExtract.Layout
