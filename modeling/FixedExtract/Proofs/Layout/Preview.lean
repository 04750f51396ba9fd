import FixedExtract.Proofs.Decimal.Plain
import FixedExtract.Proofs.Layout.Choosing
import FixedExtract.Proofs.Layout.Placement
import FixedExtract.Proofs.Text.Lines
/-!
# Lines of a preview

A preview has the line of each record on a line of its own, unless a line feed comes into one of them. Rendering takes
no line feed out: what a record or the layout holds is cut and filled, and no more. It puts none in either, so where
neither the records nor the texts of the layout hold a line feed, the lines are read off the preview again.
-/

namespace FixedExtract

open Text (OneLine)

/-- No field of the record has a text with a line feed. -/
def Record.OneLine (record : Record) : Prop := ∀ name, ∀ text ∈ record.text? name, Text.OneLine text

theorem Record.oneLine_of_values {record : Record}
    (h : ∀ entry ∈ record, ∀ text ∈ Record.textOf entry.2, Text.OneLine text) : record.OneLine := by
  intro name text shown
  obtain ⟨value, found, shown⟩ := Option.bind_eq_some_iff.1 shown
  obtain ⟨before, after, entries, -⟩ := List.lookup_eq_some_iff.1 found
  refine h (name, value) ?_ text shown
  rw [entries]
  exact List.mem_append_right before List.mem_cons_self

namespace Layout

/-! ## Texts that a layout brings in -/

/-- The values of the branches of a condition and its else. -/
def Condition.values (c : Condition) : List Text := c.branches.map Prod.snd ++ c.elseExpr.toList

/-- The texts of a transformation that may come into a field. -/
def Transformation.texts : Transformation → List Text
  | .source _ => []
  | .constant value => value.toList
  | .composite _ delimiter _ _ => [delimiter]
  | .conditional conditions _ => conditions.flatMap Condition.values

/-- The texts of a mapping that may come into its field. -/
def Mapping.texts (m : Mapping) : List Text := [m.padChar] :: (m.defaultValue.toList ++ m.transformation.texts)

section
variable {m : Mapping} {record : Record} {text : Text} {values : List (Option Text)} {delimiter : Text}
  {defaultValue : Option Text}

/-- A number in plain notation has digits, a sign and a point. -/
theorem oneLine_decimalText {result : Option Decimal} (h : decimalText result = .ok text) : OneLine text := by
  unfold decimalText at h
  split at h
  · next shown written =>
    cases h
    obtain ⟨d, -, written⟩ := Option.bind_eq_some_iff.1 written
    obtain ⟨r, -, negative, whole, fraction, rfl, digits⟩ := Decimal.shortPlain?_eq_some written
    have plain : Decimal.Written Text.isAsciiDigit (Decimal.written negative whole fraction) :=
      ⟨negative, whole, fraction, rfl, digits.nonEmpty,
        fun c hc => digits.ascii c (List.mem_append_left fraction hc),
        fun c hc => digits.ascii c (List.mem_append_right whole hc)⟩
    intro here
    rcases plain.mem_cases here with minus | point | digit
    · cases minus
    · cases point
    · cases digit
  · cases h

theorem oneLine_extreme {pick : Decimal → List Decimal → Decimal} (default : ∀ t ∈ defaultValue, OneLine t)
    (h : extreme pick values defaultValue = .ok text) : OneLine text := by
  unfold extreme at h
  split at h
  · cases h
    exact Text.oneLine_getD default (by decide)
  · exact oneLine_decimalText h

theorem oneLine_firstChanged {change : Text → Text} (keeps : ∀ {t}, OneLine t → OneLine (change t))
    (each : ∀ value ∈ values, ∀ t ∈ value, OneLine t) (default : ∀ t ∈ defaultValue, OneLine t) :
    OneLine (firstChanged change values defaultValue) := by
  unfold firstChanged
  split
  · next first rest => exact keeps (each (some first) List.mem_cons_self first rfl)
  · exact Text.oneLine_getD default .nil

theorem oneLine_combineTexts {operation : CompositeOperation} (each : ∀ value ∈ values, ∀ t ∈ value, OneLine t)
    (between : OneLine delimiter) (default : ∀ t ∈ defaultValue, OneLine t)
    (h : combineTexts values delimiter defaultValue operation = .ok text) : OneLine text := by
  cases operation with
  | concat =>
    cases h
    refine between.join ?_
    intro t ht
    obtain ⟨value, hv, rfl⟩ := List.mem_map.1 ht
    exact Text.oneLine_getD (each value hv) .nil
  | sum => exact oneLine_decimalText h
  | avg => exact oneLine_decimalText h
  | min => exact oneLine_extreme default h
  | max => exact oneLine_extreme default h
  | upper =>
    cases h
    exact oneLine_firstChanged OneLine.upper each default
  | lower =>
    cases h
    exact oneLine_firstChanged OneLine.lower each default
  | trim =>
    cases h
    exact oneLine_firstChanged OneLine.strip each default

theorem oneLine_unquoted? {literal : Text} (h : OneLine text) (quoted : unquoted? text = some literal) :
    OneLine literal := by
  unfold unquoted? at quoted
  split at quoted
  · next first rest stripped =>
    split at quoted
    · cases quoted
      have whole : OneLine (first :: rest) := stripped ▸ h.strip
      exact whole.of_subset fun c hc => List.mem_cons_of_mem first (List.dropLast_subset rest hc)
    · cases quoted
  · cases quoted

/-- A branch stands for a text of its own or for a field. -/
theorem oneLine_branchValue? {value : Text} (h : OneLine value) (fields : record.OneLine)
    (resolved : branchValue? record value = some text) : OneLine text := by
  unfold branchValue? at resolved
  split at resolved
  · next literal quoted =>
    cases resolved
    exact oneLine_unquoted? h quoted
  · split at resolved
    · exact fields value text resolved
    · cases resolved
      exact h

theorem oneLine_choose {conditions : List Condition} {choice : Choice}
    (each : ∀ c ∈ conditions, ∀ value ∈ c.values, OneLine value) (fields : record.OneLine)
    (default : ∀ t ∈ defaultValue, OneLine t) (h : choose conditions record defaultValue = .ok choice) :
    OneLine choice.value := by
  have resolve : ∀ {c : Condition} {value : Text}, c ∈ conditions → value ∈ c.values →
      OneLine ((branchValue? record value).getD []) := fun hc hv =>
    Text.oneLine_getD (fun t resolved => oneLine_branchValue? (each _ hc _ hv) fields resolved) .nil
  unfold choose at h
  -- One case for each way in which the trying of the branches ends.
  cases ending record conditions with
  | holds reaches found held =>
    rw [reaches.chooseTraced_of_holds found held] at h
    cases h
    refine resolve (List.mem_of_getElem? reaches.found) (List.mem_append_left _ ?_)
    exact List.mem_map_of_mem (List.mem_of_getElem? found)
  | malformed reaches found malformed =>
    rw [reaches.chooseTraced_of_malformed found malformed] at h
    cases h
  | otherwise reaches otherwise =>
    rw [reaches.chooseTraced_of_otherwise otherwise] at h
    cases h
    refine resolve (List.mem_of_getElem? reaches.found) (List.mem_append_right _ ?_)
    exact Option.mem_toList.2 (Option.filter_eq_some_iff.1 otherwise).1
  | passes passes =>
    rw [chooseTraced_of_passes passes] at h
    cases h
    unfold fallback
    split
    · next value => exact default value rfl
    · exact .nil

/-- What is derived from texts without a line feed has none. -/
theorem oneLine_render (layout : ∀ t ∈ m.texts, OneLine t) (fields : record.OneLine)
    (h : render m record = .ok text) : OneLine text := by
  obtain ⟨-, others⟩ := List.forall_mem_cons.1 layout
  obtain ⟨inDefault, inTransformation⟩ := List.forall_mem_append.1 others
  have default : ∀ t ∈ m.defaultValue, OneLine t := fun t ht => inDefault t (Option.mem_toList.2 ht)
  have fallen : OneLine (m.defaultValue.getD []) := Text.oneLine_getD default .nil
  unfold render at h
  cases transformation : m.transformation with
  | source field =>
    rw [transformation] at h
    cases h
    exact Text.oneLine_getD (fields field.text) fallen
  | constant value =>
    rw [transformation] at h inTransformation
    cases h
    refine Text.oneLine_getD ?_ fallen
    intro t ht
    exact inTransformation t (Option.mem_toList.2 (Option.filter_eq_some_iff.1 ht).1)
  | composite sources delimiter operation nonEmpty =>
    rw [transformation] at h inTransformation
    dsimp only at h
    split at h
    · next combined =>
      cases h
      refine oneLine_combineTexts ?_ (inTransformation delimiter List.mem_cons_self) default combined
      intro value hv
      obtain ⟨source, -, rfl⟩ := List.mem_map.1 hv
      exact fields source.text
    · cases h
  | conditional conditions nonEmpty =>
    rw [transformation] at h inTransformation
    dsimp only at h
    split at h
    · next choice chosen =>
      cases h
      refine oneLine_choose ?_ fields default chosen
      intro c hc value hv
      exact inTransformation value (List.mem_flatMap.2 ⟨c, hc, hv⟩)
    · cases h

end

/-! ## Lines -/

section
variable {m : Mapping} {config : Config} {record : Record}

/-- No line feed comes into the field: neither is one in what is kept of its text, nor is it filled with them. -/
def StaysOnLine (m : Mapping) (record : Record) : Prop :=
  OneLine ((fittedText m record).take m.length) ∧ ((fittedText m record).length < m.length → m.padChar ≠ '\n')

theorem oneLine_position_iff {text : Text} {length : Nat} {pad : PadSide} {padChar : Char} :
    OneLine (position text length pad padChar) ↔
      OneLine (text.take length) ∧ (text.length < length → padChar ≠ '\n') := by
  have filling : '\n' ∈ List.replicate (length - text.length) padChar ↔ text.length < length ∧ padChar = '\n' := by
    rw [List.mem_replicate, Nat.sub_ne_zero_iff_lt, eq_comm]
  unfold OneLine position
  cases pad with
  | left => rw [List.mem_append, filling, not_or, not_and, and_comm]
  | right => rw [List.mem_append, filling, not_or, not_and]

theorem oneLine_value_iff {field : RenderedField} (h : renderField m record = .ok field) :
    OneLine field.value ↔ StaysOnLine m record := by
  obtain ⟨raw, warnings, derived, -, rfl⟩ := renderField_eq_ok_iff.1 h
  rw [StaysOnLine, fittedText_of_derived? derived]
  exact oneLine_position_iff

theorem oneLine_text_iff {number : Nat} {line : RenderedLine} (h : renderLine config record number = .ok line) :
    OneLine line.text ↔ ∀ m ∈ config.mappings, StaysOnLine m record := by
  obtain ⟨-, fields⟩ := renderLine_eq_ok_iff.1 h
  unfold RenderedLine.text OneLine
  rw [List.mem_flatMap]
  constructor
  · intro none m hm
    obtain ⟨field, hf, rendered⟩ := exists_of_forall₂_left fields m (mem_ordered_iff.2 hm)
    exact (oneLine_value_iff rendered).1 fun here => none ⟨field, hf, here⟩
  · rintro each ⟨field, hf, here⟩
    obtain ⟨m, hm, rendered⟩ := exists_of_forall₂_right fields field hf
    exact (oneLine_value_iff rendered).2 (each m (mem_ordered_iff.1 hm)) here

/-- Texts without a line feed bring none into a field. -/
theorem staysOnLine_of_oneLine (layout : ∀ t ∈ m.texts, OneLine t) (fields : record.OneLine) :
    StaysOnLine m record := by
  have fitted : OneLine (fittedText m record) := by
    unfold fittedText
    split
    · next raw rendered => exact oneLine_render layout fields rendered
    · exact .nil
  refine ⟨fitted.of_subset (List.take_subset m.length _), ?_⟩
  rintro - filled
  apply layout [m.padChar] List.mem_cons_self
  rw [filled]
  exact List.mem_cons_self

/-- A preview shows the lines of the records, each as wide as the layout, with line feeds between them. Read line by
line it gives the pieces of each line, and these are the lines themselves exactly when no line feed comes into any
field of any record; so they are when neither the layout nor the records have a text with a line feed. -/
theorem splitOn_previewText {records : List Record} {lines : List RenderedLine} (nonEmpty : records ≠ [])
    (rendered : renderLines config records = .ok lines) :
    List.Forall₂ (fun entry line => renderLine config entry.1 entry.2 = .ok line ∧
      line.text.length = config.recordLength) (records.zipIdx 1) lines ∧
    Text.splitOn '\n' (previewText lines) = lines.flatMap (fun line => Text.splitOn '\n' line.text) ∧
    (Text.splitOn '\n' (previewText lines) = lines.map RenderedLine.text ↔
      ∀ record ∈ records, ∀ m ∈ config.mappings, StaysOnLine m record) ∧
    ((∀ m ∈ config.mappings, ∀ t ∈ m.texts, OneLine t) → (∀ record ∈ records, record.OneLine) →
      Text.splitOn '\n' (previewText lines) = lines.map RenderedLine.text) := by
  have each := renderLinesFrom_eq_ok_iff.1 rendered
  have some : lines.map RenderedLine.text ≠ [] := by
    have same := each.length_eq
    rw [List.length_zipIdx] at same
    intro none
    rw [List.map_eq_nil_iff.1 none] at same
    exact nonEmpty (List.length_eq_zero_iff.1 same)
  have pieces : Text.splitOn '\n' (previewText lines) = (lines.map RenderedLine.text).flatMap (Text.splitOn '\n') :=
    Text.splitOn_join '\n' some
  have exactly : Text.splitOn '\n' (previewText lines) = lines.map RenderedLine.text ↔
      ∀ record ∈ records, ∀ m ∈ config.mappings, StaysOnLine m record := by
    rw [pieces, Text.flatMap_splitOn_eq_iff, List.forall_mem_map]
    constructor
    · intro oneLine record hr
      rw [← List.zipIdx_map_fst 1 records, List.mem_map] at hr
      obtain ⟨entry, he, rfl⟩ := hr
      obtain ⟨line, hl, made⟩ := exists_of_forall₂_left each entry he
      exact (oneLine_text_iff made).1 (oneLine line hl)
    · intro stays line hl
      obtain ⟨entry, he, made⟩ := exists_of_forall₂_right each line hl
      exact (oneLine_text_iff made).2 (stays entry.1 (List.fst_mem_of_mem_zipIdx he))
  refine ⟨each.imp fun entry line made => ⟨made, length_text_of_renderLine made⟩, ?_, exactly, ?_⟩
  · rw [pieces, List.flatMap_map]
  · intro layout fields
    exact exactly.2 fun record hr m hm => staysOnLine_of_oneLine (layout m hm) (fields record hr)

end

/-! ### A note in a field -/

/-- A layout of one field of five characters, which shows a field of the record. -/
def noteLayout : Config where
  sourceSystem := "CORE"
  jobName := "daily"
  transactionType := "default"
  mappings := [⟨"NOTE", 1, 5, .source ⟨['T'], by decide⟩, .right, ' ', "STRING", none, Nat.one_pos, Nat.succ_pos 4⟩]
  version := 1
  lastModified := none

/-- Two notes, of which the first is cut and the second filled. -/
theorem splitOn_previewText_notes :
    let records : List Record := [[(['T'], .text "abcdef")], [(['T'], .text ['x'])]]
    records ≠ [] ∧ ∃ lines, renderLines noteLayout records = .ok lines ∧
      previewText lines = "abcde\nx    ".toList ∧
      Text.splitOn '\n' (previewText lines) = lines.map RenderedLine.text := by
  intro records
  have rendered : (renderLines noteLayout records).map previewText = .ok "abcde\nx    ".toList := by decide +kernel
  obtain ⟨lines, hl, shown⟩ := map_eq_ok_iff.1 rendered
  have nonEmpty : records ≠ [] := List.cons_ne_nil _ _
  have oneLine : ∀ record ∈ records, record.OneLine := by
    intro record hr
    have values : ∀ record ∈ records, ∀ entry ∈ record, ∀ text ∈ Record.textOf entry.2, OneLine text := by decide
    exact Record.oneLine_of_values (values record hr)
  obtain ⟨-, -, -, readBack⟩ := splitOn_previewText nonEmpty hl
  exact ⟨nonEmpty, lines, hl, shown, readBack (by decide) oneLine⟩

/-- A note with a line feed takes two lines of the preview. -/
theorem splitOn_previewText_brokenNote :
    (renderLines noteLayout [[(['T'], .text "ab\ncd")]]).map (fun lines =>
      (lines.map RenderedLine.text, Text.splitOn '\n' (previewText lines))) =
      .ok (["ab\ncd".toList], [['a', 'b'], ['c', 'd']]) := by
  decide +kernel

end Layout
end FixedExtract
