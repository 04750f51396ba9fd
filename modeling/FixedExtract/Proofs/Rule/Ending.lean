import FixedExtract.Proofs.Definition.Reading
import FixedExtract.Proofs.Json.Failing
import FixedExtract.Proofs.Yaml.Failing
import FixedExtract.Rule.Loading
/-!
# How reading rules ends

A text gives one rule for every row, or it is told that it holds no rows or which row is no rule, but where a row is not
even a map, and where a value of the text or the identifier to be told has no form to be read or written in.
-/

namespace FixedExtract.Rule

open Definition (Checked FieldName TypeFault)

/-! ## Rows -/

/-- The rows of a value: those of a list, or of the list that a map has as its rules; without any there are no rows. -/
inductive HasRows (value : Value) : List Value → Prop
  | list {rows : List Value} (opened : value.opened = .list rows) : HasRows value rows
  | rules {entries : Entries} {rules : Value} {rows : List Value} (opened : value.opened = .map entries)
      (given : Entries.get? "rules" entries = some rules) (list : rules.opened = .list rows) : HasRows value rows
  | noRules {entries : Entries} (opened : value.opened = .map entries)
      (none : Entries.get? "rules" entries = none) : HasRows value []

/-- The rule of a value: a map that is read as a row, the words of which name a kind and a severity. -/
def RuleOf (value : Value) (rule : Rule) : Prop :=
  ∃ entries row, value.opened = .map entries ∧ RuleRow.read (.map entries) = .value row ∧ row.toRule = .ok rule

/-- What is wrong with a value that is no rule. -/
inductive Rejected (value : Value) : RowFault → Prop
  | notMap (other : ∀ entries, value.opened ≠ .map entries) : Rejected value .notMap
  | types {entries : Entries} {found : List TypeFault} (opened : value.opened = .map entries)
      (read : RuleRow.read (.map entries) = .faults found) : Rejected value (.types (writtenId entries) found)
  | word {entries : Entries} {row : RuleRow} {fault : UnknownRuleWord} (opened : value.opened = .map entries)
      (read : RuleRow.read (.map entries) = .value row) (unknown : row.toRule = .error fault) :
      Rejected value (.word row.ruleId fault)

section
variable {value : Value} {rows : List Value} {entries : Entries}

theorem rowsOf_eq_some_iff : rowsOf value = some rows ↔ HasRows value rows := by
  unfold rowsOf
  constructor
  · intro h
    split at h
    · next opened =>
      cases h
      exact .list opened
    · next opened =>
      split at h
      · next none =>
        cases h
        exact .noRules opened (Option.map_eq_none_iff.1 none)
      · next given =>
        cases h
        obtain ⟨rules, given, list⟩ := Option.map_eq_some_iff.1 given
        exact .rules opened given list
      · cases h
    · cases h
  · intro h
    cases h with
    | list opened => rw [opened]
    | rules opened given list => simp only [opened, given, Option.map_some, list]
    | noRules opened none => simp only [opened, none, Option.map_none]

theorem load_of_value {row : RuleRow} (opened : value.opened = .map entries)
    (read : RuleRow.read (.map entries) = .value row) : load (.value value) = ofRow row := by
  simp only [load, opened, read]

theorem load_of_faults {found : List TypeFault} (opened : value.opened = .map entries)
    (read : RuleRow.read (.map entries) = .faults found) :
    load (.value value) = .error (.types (writtenId entries) found) := by
  simp only [load, opened, read]

theorem load_of_notMap (other : ∀ entries, value.opened ≠ .map entries) : load (.value value) = .error .notMap := by
  rw [load]
  split
  · next entries opened => exact absurd opened (other entries)
  · rfl

/-- A value is loaded as a map that is read, as a map that is not, or as something else. -/
theorem load_cases (value : Value) :
    (∃ entries row, value.opened = .map entries ∧ RuleRow.read (.map entries) = .value row) ∨
    (∃ entries found, value.opened = .map entries ∧ RuleRow.read (.map entries) = .faults found) ∨
    ∀ entries, value.opened ≠ .map entries := by
  by_cases map : ∃ entries, value.opened = .map entries
  · obtain ⟨entries, opened⟩ := map
    cases read : RuleRow.read (.map entries) with
    | value row => exact .inl ⟨entries, row, opened, read⟩
    | faults found => exact .inr (.inl ⟨entries, found, opened, read⟩)
  · exact .inr (.inr (not_exists.1 map))

theorem load_eq_ok_iff {rule : Rule} : load (.value value) = .ok rule ↔ RuleOf value rule := by
  constructor
  · intro h
    rcases load_cases value with ⟨entries, row, opened, read⟩ | ⟨entries, found, opened, read⟩ | other
    · rw [load_of_value opened read] at h
      exact ⟨entries, row, opened, read, mapError_eq_ok_iff.1 h⟩
    · rw [load_of_faults opened read] at h
      cases h
    · rw [load_of_notMap other] at h
      cases h
  · rintro ⟨entries, row, opened, read, made⟩
    rw [load_of_value opened read]
    exact mapError_eq_ok_iff.2 made

theorem load_eq_error_iff {fault : RowFault} : load (.value value) = .error fault ↔ Rejected value fault := by
  constructor
  · intro h
    rcases load_cases value with ⟨entries, row, opened, read⟩ | ⟨entries, found, opened, read⟩ | other
    · rw [load_of_value opened read] at h
      obtain ⟨unknown, made, rfl⟩ := mapError_eq_error_iff.1 h
      exact .word opened read made
    · rw [load_of_faults opened read] at h
      cases h
      exact .types opened read
    · rw [load_of_notMap other] at h
      cases h
      exact .notMap other
  · intro rejected
    cases rejected with
    | notMap other => exact load_of_notMap other
    | types opened read => exact load_of_faults opened read
    | word opened read unknown =>
      rw [load_of_value opened read]
      exact mapError_eq_error_iff.2 ⟨_, unknown, rfl⟩

theorem isWritable_of_readWritten {text : Text} (read : Definition.readWritten value = .value text) :
    value.isWritable = true := by
  unfold Definition.readWritten at read
  split at read
  · cases read
  · rfl
  · split at read
    · next writable => exact writable
    · cases read

/-- A row that is read has an identifier that can be written. -/
theorem isWritable_of_read {row : RuleRow} (read : RuleRow.read (.map entries) = .value row) :
    (writtenId entries).isWritable = true := by
  rw [RuleRow.read, Value.opened_map] at read
  -- What follows the identifier is set aside, field by field from the last.
  iterate 16 obtain ⟨_, _, read, -⟩ := Checked.seq_eq_value_iff.1 read
  obtain ⟨id, given, -⟩ := Checked.map_eq_value_iff.1 read
  rw [FieldName.require] at given
  rw [writtenId]
  cases found : RuleRow.ruleIdField.find? entries with
  | none => rfl
  | some entry =>
    rw [found] at given
    exact isWritable_of_readWritten (Checked.under_eq_value_iff.1 given)

end

/-! ## Texts -/

/-- The rows that a text holds. -/
def Rows (format : Format) (text : Text) (rows : List Value) : Prop :=
  ∃ value, readValue format text = .ok value ∧ HasRows value rows

/-- The first row that is no rule, after rows that are. -/
def FirstRejected (format : Format) (text : Text) (rejected : RowFault) : Prop :=
  ∃ before value after, Rows format text (before ++ value :: after) ∧ (∀ v ∈ before, ∃ rule, RuleOf v rule) ∧
    Rejected value rejected

section
variable {format : Format} {text : Text} {rows : List Value}

theorem Rows.unique {others : List Value} (h : Rows format text rows) (h' : Rows format text others) :
    rows = others := by
  obtain ⟨value, read, has⟩ := h
  obtain ⟨value', read', has'⟩ := h'
  cases read.symm.trans read'
  exact Option.some.inj ((rowsOf_eq_some_iff.2 has).symm.trans (rowsOf_eq_some_iff.2 has'))

theorem readText_of_rows (h : Rows format text rows) :
    readText format text = (rows.mapM fun row => load (.value row)).mapError .row := by
  obtain ⟨value, read, has⟩ := h
  rw [readText, read]
  dsimp only
  rw [rowsOf_eq_some_iff.2 has]
  dsimp only
  rw [loadAll, List.mapM_map]
  rfl

theorem readText_of_noRows {value : Value} (read : readValue format text = .ok value)
    (noRows : ∀ rows, ¬HasRows value rows) : readText format text = .error .notRows := by
  have nothing : rowsOf value = none := by
    rw [Option.eq_none_iff_forall_ne_some]
    exact fun rows h => noRows rows (rowsOf_eq_some_iff.1 h)
  rw [readText, read]
  dsimp only
  rw [nothing]

theorem readText_of_fault {fault : TextFault} (read : readValue format text = .error fault) :
    readText format text = .error fault := by
  rw [readText, read]

/-- The text has rows, or it holds a value without any, or no value. -/
theorem rows_cases (format : Format) (text : Text) : (∃ rows, Rows format text rows) ∨
    (∃ value, readValue format text = .ok value ∧ ∀ rows, ¬HasRows value rows) ∨
    ∃ fault, readValue format text = .error fault := by
  cases read : readValue format text with
  | error fault => exact .inr (.inr ⟨fault, rfl⟩)
  | ok value =>
    by_cases has : ∃ rows, HasRows value rows
    · obtain ⟨rows, has⟩ := has
      exact .inl ⟨rows, value, read, has⟩
    · exact .inr (.inl ⟨value, rfl, not_exists.1 has⟩)

theorem readText_eq_ok_iff {rules : List Rule} :
    readText format text = .ok rules ↔ ∃ rows, Rows format text rows ∧ List.Forall₂ RuleOf rows rules := by
  have each (rows : List Value) (h : Rows format text rows) :
      readText format text = .ok rules ↔ List.Forall₂ RuleOf rows rules := by
    rw [readText_of_rows h, mapError_eq_ok_iff, mapM_eq_ok_iff]
    simp only [load_eq_ok_iff]
  constructor
  · intro h
    rcases rows_cases format text with ⟨rows, found⟩ | ⟨value, read, noRows⟩ | ⟨fault, read⟩
    · exact ⟨rows, found, (each rows found).1 h⟩
    · rw [readText_of_noRows read noRows] at h
      cases h
    · rw [readText_of_fault read] at h
      cases h
  · rintro ⟨rows, found, h⟩
    exact (each rows found).2 h

/-- Rows are taken in order, and the first that is no rule ends the reading. -/
theorem readText_of_rows_eq_error_iff (h : Rows format text rows) {fault : TextFault} :
    readText format text = .error fault ↔ ∃ rejected, FirstRejected format text rejected ∧ fault = .row rejected := by
  rw [readText_of_rows h, mapError_eq_error_iff]
  simp only [mapM_eq_error_iff, load_eq_ok_iff, load_eq_error_iff]
  constructor
  · rintro ⟨rejected, ⟨before, value, after, rfl, good, bad⟩, rfl⟩
    exact ⟨rejected, ⟨before, value, after, h, good, bad⟩, rfl⟩
  · rintro ⟨rejected, ⟨before, value, after, found, good, bad⟩, rfl⟩
    exact ⟨rejected, ⟨before, value, after, h.unique found, good, bad⟩, rfl⟩

end

/-! ## What callers are told -/

/-- Of such a row callers are told nothing: it is no map, or its identifier cannot be written. -/
inductive RowFault.Silent : RowFault → Prop
  | notMap : Silent .notMap
  | types {id : Value} {found : List TypeFault} (unwritable : id.isWritable = false) : Silent (.types id found)

theorem RowFault.failure?_eq_error_iff {rejected : RowFault} :
    (∃ reason, rejected.failure? = .error reason) ↔ rejected.Silent := by
  cases rejected with
  | notMap => exact iff_of_true ⟨_, rfl⟩ .notMap
  | types id found =>
    rw [RowFault.failure?]
    constructor
    · rintro ⟨reason, h⟩
      split at h
      · cases h
      · next unwritable => exact .types (Bool.eq_false_iff.2 unwritable)
    · rintro (_ | ⟨unwritable⟩)
      rw [unwritable]
      exact ⟨_, rfl⟩
  | word id fault => exact iff_of_false nofun nofun

/-- Of a row callers are told that it is no rule. -/
theorem RowFault.cls_of_failure? {rejected : RowFault} {failure : Failure} (h : rejected.failure? = .ok failure) :
    failure.cls = .ruleDefinition := by
  cases rejected with
  | notMap => cases h
  | types id found =>
    rw [RowFault.failure?] at h
    split at h
    · cases h
      rfl
    · cases h
  | word id fault =>
    cases h
    rfl

/-- What callers are told of a text without rows is that it cannot be loaded, and otherwise it is about a row. -/
theorem TextFault.failure?_cases {name : Text} {fault : TextFault} {failure : Failure}
    (h : fault.failure? name = .ok failure) :
    failure.cls = .configLoad ∨ ∃ rejected, fault = .row rejected ∧ rejected.failure? = .ok failure := by
  cases fault with
  | json f =>
    obtain ⟨cause, position⟩ := f
    cases cause with
    | tooManyDigits digits => cases h
    | _ =>
      cases h
      exact .inl rfl
  | yaml f =>
    cases f with
    | malformed =>
      cases h
      exact .inl rfl
    | _ => cases h
  | notRows =>
    cases h
    exact .inl rfl
  | row rejected => exact .inr ⟨rejected, rfl, h⟩

/-- The text has a value, or it has none because of its form. -/
def Format.Fits : Format → Text → Prop
  | .json, text => ∀ digits position, Json.read text ≠ .error ⟨.tooManyDigits digits, position⟩
  | .yaml, text => ∀ fault, Yaml.read text = .error fault → fault = .malformed

/-- Reading ends as it is told to: with rules, or with the failure for a text without rows or for a row that is no
rule. -/
def Ends (name text : Text) : Prop :=
  (∃ rules, readText (.ofName name) text = .ok rules) ∨
    ∃ fault failure, readText (.ofName name) text = .error fault ∧ fault.failure? name = .ok failure ∧
      (failure.cls = .configLoad ∨ failure.cls = .ruleDefinition)

/-- After rows that are rules comes one that is no map with an identifier that can be written. -/
def StopsAtRow (format : Format) (text : Text) : Prop :=
  ∃ before value after, Rows format text (before ++ value :: after) ∧ (∀ v ∈ before, ∃ rule, RuleOf v rule) ∧
    ∀ entries, value.opened = .map entries → (writtenId entries).isWritable = false

section
variable {name text : Text} {format : Format} {fault : TextFault}

/-- Of a text that has no value, callers are told so unless a number has too many digits or a scalar has no value. -/
theorem fits_iff : format.Fits text ↔
    ∀ fault, readValue format text = .error fault → ∃ failure, fault.failure? name = .ok failure := by
  cases format with
  | json =>
    simp only [readValue, mapError_eq_error_iff]
    constructor
    · rintro fits _ ⟨⟨cause, position⟩, read, rfl⟩
      cases cause with
      | tooManyDigits digits => exact absurd read (fits digits position)
      | _ => exact ⟨_, rfl⟩
    · intro told digits position read
      obtain ⟨_, h⟩ := told _ ⟨_, read, rfl⟩
      cases h
  | yaml =>
    simp only [readValue, mapError_eq_error_iff]
    constructor
    · rintro fits _ ⟨f, read, rfl⟩
      cases fits f read
      exact ⟨_, rfl⟩
    · intro told f read
      obtain ⟨_, h⟩ := told _ ⟨f, read, rfl⟩
      cases f with
      | malformed => rfl
      | _ => cases h

theorem readValue_ne_row (format : Format) (text : Text) (rejected : RowFault) :
    readValue format text ≠ .error (.row rejected) := by
  intro h
  cases format with
  | json =>
    obtain ⟨_, -, ⟨⟩⟩ := mapError_eq_error_iff.1 h
  | yaml =>
    obtain ⟨_, -, ⟨⟩⟩ := mapError_eq_error_iff.1 h

/-- The failure is about the text when it has no rows, and about the first row that is no rule when it has. -/
theorem failure_of_readText {failure : Failure} (h : readText format text = .error fault)
    (told : fault.failure? name = .ok failure) :
    failure.cls = .configLoad ∧ (∀ rows, ¬Rows format text rows) ∨
      failure.cls = .ruleDefinition ∧ ∃ rejected, FirstRejected format text rejected ∧
        rejected.failure? = .ok failure := by
  rcases rows_cases format text with ⟨rows, found⟩ | ⟨value, read, noRows⟩ | ⟨fault', read⟩
  · obtain ⟨rejected, first, rfl⟩ := (readText_of_rows_eq_error_iff found).1 h
    exact .inr ⟨RowFault.cls_of_failure? told, rejected, first, told⟩
  · rw [readText_of_noRows read noRows] at h
    cases h
    cases told
    refine .inl ⟨rfl, ?_⟩
    rintro rows ⟨value', read', has⟩
    cases read.symm.trans read'
    exact noRows rows has
  · cases (readText_of_fault read).symm.trans h
    -- A text that has no value is never told to have a row that is no rule.
    rcases TextFault.failure?_cases told with cls | ⟨rejected, rfl, -⟩
    · refine .inl ⟨cls, ?_⟩
      rintro rows ⟨value, read', -⟩
      cases read.symm.trans read'
    · exact absurd read (readValue_ne_row format text rejected)

theorem stopsAtRow_iff : StopsAtRow format text ↔ ∃ rejected, rejected.Silent ∧ FirstRejected format text rejected := by
  constructor
  · rintro ⟨before, value, after, found, good, unwritable⟩
    rcases load_cases value with ⟨entries, row, opened, read⟩ | ⟨entries, faults, opened, read⟩ | other
    · -- A map that is read has an identifier that can be written, so the row is not of this kind.
      exact absurd (isWritable_of_read read) (Bool.eq_false_iff.1 (unwritable entries opened))
    · exact ⟨_, .types (unwritable entries opened), before, value, after, found, good, .types opened read⟩
    · exact ⟨_, .notMap, before, value, after, found, good, .notMap other⟩
  · rintro ⟨rejected, silent, before, value, after, found, good, bad⟩
    refine ⟨before, value, after, found, good, fun entries opened => ?_⟩
    cases bad with
    | notMap other => exact absurd opened (other entries)
    | types opened' read =>
      cases opened.symm.trans opened'
      cases silent with
      | types unwritable => exact unwritable
    | word => cases silent

theorem readText_of_firstRejected {rejected : RowFault} (first : FirstRejected format text rejected) :
    readText format text = .error (.row rejected) := by
  have ⟨_, _, _, found, _⟩ := first
  exact (readText_of_rows_eq_error_iff found).2 ⟨rejected, first, rfl⟩

theorem ends_iff_reported : Ends name text ↔
    FailsWith (fun fault => ∃ failure, fault.failure? name = .ok failure) (readText (.ofName name) text) := by
  refine ok_or_told_iff fun fault failure read told => ?_
  rcases failure_of_readText read told with ⟨cls, -⟩ | ⟨cls, -⟩
  · exact .inl cls
  · exact .inr cls

/-- Nothing else is in the way of such an end. -/
theorem ends_iff_unless : Ends name text ↔
    (Format.ofName name).Fits text ∧ ¬StopsAtRow (.ofName name) text := by
  rw [ends_iff_reported, stopsAtRow_iff]
  constructor
  · intro reported
    refine ⟨fits_iff.2 fun fault read => reported fault (readText_of_fault read), ?_⟩
    rintro ⟨rejected, silent, first⟩
    obtain ⟨failure, told⟩ := reported _ (readText_of_firstRejected first)
    obtain ⟨reason, untold⟩ := RowFault.failure?_eq_error_iff.2 silent
    cases told.symm.trans untold
  · rintro ⟨fits, noRow⟩ fault read
    rcases rows_cases (.ofName name) text with ⟨rows, found⟩ | ⟨value, has, noRows⟩ | ⟨fault', has⟩
    · obtain ⟨rejected, first, rfl⟩ := (readText_of_rows_eq_error_iff found).1 read
      cases told : rejected.failure? with
      | ok failure => exact ⟨failure, told⟩
      | error reason => exact absurd ⟨rejected, RowFault.failure?_eq_error_iff.1 ⟨reason, told⟩, first⟩ noRow
    · cases (readText_of_noRows has noRows).symm.trans read
      exact ⟨_, rfl⟩
    · cases (readText_of_fault has).symm.trans read
      exact fits_iff.1 fits fault has

end

/-- Of any text, in whatever form it is said to be, the rules are read of which there is one for every row, in order.
All that callers are told otherwise is that a text without rows cannot be loaded, or what is wrong with the first row
that is no rule. They are told so unless the text has no value for another reason than its form, or that row is no map
with an identifier that can be written. Where a text has no value for another reason, a number in it has too many
digits, or it has a scalar without a value for its tag, an escape that names no character or a version number that is
too long. -/
theorem rules_or_failure (name text : Text) :
    (∀ rules, readText (.ofName name) text = .ok rules ↔
      ∃ rows, Rows (.ofName name) text rows ∧ List.Forall₂ RuleOf rows rules) ∧
    (∀ fault failure, readText (.ofName name) text = .error fault → fault.failure? name = .ok failure →
      failure.cls = .configLoad ∧ (∀ rows, ¬Rows (.ofName name) text rows) ∨
        failure.cls = .ruleDefinition ∧ ∃ rejected, FirstRejected (.ofName name) text rejected ∧
          rejected.failure? = .ok failure) ∧
    (Ends name text ↔ (Format.ofName name).Fits text ∧ ¬StopsAtRow (.ofName name) text) ∧
    (∀ fault, Json.read text = .error fault → Json.Justified text fault) ∧
    ∀ fault, Yaml.read text = .error fault → Yaml.TextFault (Yaml.tokens text).1 fault :=
  ⟨fun _ => readText_eq_ok_iff, fun _ _ => failure_of_readText, ends_iff_unless, Json.justified_of_read text,
    Yaml.textFault_of_read text⟩

/-- A list with the name of a rule instead of the rule. -/
def onlyNamed : Text := "[\"R1\"]"

/-- A row that is no map is not reported as a row that is no rule. -/
theorem ends_onlyNamed : Rows .json onlyNamed [.text "R1"] ∧ ¬Ends "json" onlyNamed := by
  have rows : Rows .json onlyNamed [.text "R1"] := ⟨.list [.text "R1"], rfl, .list rfl⟩
  refine ⟨rows, fun ends => (ends_iff_unless.1 ends).2 ⟨[], .text "R1", [], rows, List.forall_mem_nil _, ?_⟩⟩
  rintro entries ⟨⟩

end FixedExtract.Rule
