import FixedExtract.Compiled.Failure
import FixedExtract.Proofs.Definition.Handover
import FixedExtract.Proofs.Yaml.Failing
/-!
# How reading compiled text ends

Any text is either read, document by document and field by field, or it is told that the configuration cannot be loaded,
but for two kinds of texts: those with a scalar that has no value, and those where a key that would have to be named
cannot be written.
-/

namespace FixedExtract.Compiled

open Definition (Checked ConfigDraft FieldName ReadAs)

/-! ## Documents -/

/-- The mapping that is handed in for a field, which has to be a map. -/
def Handed (field : Value × Value) (mapping : Value) : Prop :=
  ∃ own, field.2.opened = .map own ∧ mapping = .map (mappingEntries field.1 own)

/-- The document and its fields are maps. -/
def HasFields (value : Value) (document fields : Entries) : Prop :=
  value.opened = .map document ∧ (Entries.getD "fields" document).opened = .map fields

/-- The draft is read from the document: it has one mapping for every field, in order. -/
def ReadFrom (value : Value) (draft : ConfigDraft) : Prop :=
  ∃ document fields mappings, HasFields value document fields ∧
    List.Forall₂ Handed fields mappings ∧
    ReadAs mappings draft.mappings ∧
    ConfigDraft.read (.map (definitionOf document mappings)) = .value draft

/-- The first field that is no map, after fields that all are. -/
def FirstNoMap (fields : Entries) (key : Value) : Prop :=
  ∃ earlier field later, fields = earlier ++ (key, field) :: later ∧
    (∀ e ∈ earlier, ∃ own, e.2.opened = .map own) ∧ ∀ own, field.opened ≠ .map own

section
variable {index : Nat} {fields document : Entries} {mappings : List Value}

/-- The mapping of one field. -/
def mappingOf (index : Nat) (entry : Value × Value) : Except TextFault Value :=
  match entry.2.opened with
  | .map own => .ok (.map (mappingEntries entry.1 own))
  | _ => .error (.fieldNotMap index entry.1)

theorem mappingOf_eq_ok_iff {entry : Value × Value} {mapping : Value} :
    mappingOf index entry = .ok mapping ↔ Handed entry mapping := by
  unfold mappingOf Handed
  split
  · next own opened =>
    rw [opened]
    constructor
    · rintro ⟨⟩
      exact ⟨own, rfl, rfl⟩
    · rintro ⟨_, ⟨⟩, rfl⟩
      rfl
  · next other =>
    refine iff_of_false nofun ?_
    rintro ⟨own, opened, -⟩
    exact other own opened

theorem mappingOf_eq_error_iff {entry : Value × Value} {fault : TextFault} : mappingOf index entry = .error fault ↔
    (∀ own, entry.2.opened ≠ .map own) ∧ fault = .fieldNotMap index entry.1 := by
  unfold mappingOf
  split
  · next own opened => exact iff_of_false nofun fun h => h.1 own opened
  · next other =>
    rw [Except.error.injEq, eq_comm]
    exact (and_iff_right other).symm

theorem mappingsOf_eq_mapM (index : Nat) (fields : Entries) :
    mappingsOf index fields = fields.mapM (mappingOf index) := by
  induction fields with
  | nil => rfl
  | cons entry rest ih =>
    rw [mappingsOf, List.mapM_cons, mappingOf, ih]
    cases entry.2.opened <;> rfl

theorem mappingsOf_eq_ok_iff : mappingsOf index fields = .ok mappings ↔ List.Forall₂ Handed fields mappings := by
  rw [mappingsOf_eq_mapM, mapM_eq_ok_iff]
  simp only [mappingOf_eq_ok_iff]

theorem mappingsOf_eq_error_iff {fault : TextFault} : mappingsOf index fields = .error fault ↔
    ∃ key, FirstNoMap fields key ∧ fault = .fieldNotMap index key := by
  rw [mappingsOf_eq_mapM, mapM_eq_error_iff]
  simp only [mappingOf_eq_ok_iff, mappingOf_eq_error_iff]
  constructor
  · rintro ⟨earlier, ⟨key, field⟩, later, cut, maps, noMap, rfl⟩
    refine ⟨key, ⟨earlier, field, later, cut, fun e he => ?_, noMap⟩, rfl⟩
    obtain ⟨_, own, opened, -⟩ := maps e he
    exact ⟨own, opened⟩
  · rintro ⟨key, ⟨earlier, field, later, cut, maps, noMap⟩, rfl⟩
    refine ⟨earlier, (key, field), later, cut, fun e he => ?_, noMap, rfl⟩
    obtain ⟨own, opened⟩ := maps e he
    exact ⟨_, own, opened, rfl⟩

end

/-- A definition has a mapping for everything that is handed in. -/
theorem readAs_of_read {document : Entries} {mappings : List Value} {draft : ConfigDraft}
    (read : ConfigDraft.read (.map (definitionOf document mappings)) = .value draft) :
    ReadAs mappings draft.mappings := by
  obtain ⟨-, -, -, given, -⟩ := ConfigDraft.read_eq_value_iff.1 read
  have found : ConfigDraft.mappingsField.find? (definitionOf document mappings) =
      some (ConfigDraft.mappingsField.camel, .list mappings) := rfl
  rw [FieldName.read, found] at given
  exact (Checked.itemsFrom_eq_value_iff 0).1 (Checked.under_eq_value_iff.1 given)

/-- What is wrong with a document: it has no fields, a field is no map, or it is read to be of other types. -/
inductive Refused (index : Nat) (value : Value) : TextFault → Prop
  | noFields (missing : ∀ document fields, ¬HasFields value document fields) : Refused index value (.noFields index)
  | fieldNotMap {document fields : Entries} {key : Value} (has : HasFields value document fields)
      (first : FirstNoMap fields key) : Refused index value (.fieldNotMap index key)
  | types {document fields : Entries} {mappings : List Value} {found : List Definition.TypeFault}
      (has : HasFields value document fields) (handed : List.Forall₂ Handed fields mappings)
      (read : ConfigDraft.read (.map (definitionOf document mappings)) = .faults found) :
      Refused index value (.types index found)

section
variable {index : Nat} {value : Value} {document fields : Entries}

theorem readDocument_of_hasFields (h : HasFields value document fields) : readDocument index value =
    (mappingsOf index fields >>= fun mappings =>
      match ConfigDraft.read (.map (definitionOf document mappings)) with
      | .value draft => .ok draft
      | .faults found => .error (.types index found)) := by
  obtain ⟨opened, has⟩ := h
  rw [readDocument, opened]
  dsimp only
  rw [has]
  rfl

theorem readDocument_of_noFields (h : ∀ document fields, ¬HasFields value document fields) :
    readDocument index value = .error (.noFields index) := by
  unfold readDocument
  split
  · next document opened =>
    split
    · next fields has => exact absurd ⟨opened, has⟩ (h document fields)
    · rfl
  · rfl

theorem HasFields.unique {document' fields' : Entries} (h : HasFields value document fields)
    (h' : HasFields value document' fields') : document = document' ∧ fields = fields' := by
  obtain ⟨opened, has⟩ := h
  obtain ⟨opened', has'⟩ := h'
  cases opened.symm.trans opened'
  cases has.symm.trans has'
  exact ⟨rfl, rfl⟩

theorem readDocument_eq_ok_iff {draft : ConfigDraft} : readDocument index value = .ok draft ↔ ReadFrom value draft := by
  by_cases has : ∃ document fields, HasFields value document fields
  · obtain ⟨document, fields, has⟩ := has
    rw [readDocument_of_hasFields has, bind_eq_ok_iff]
    simp only [mappingsOf_eq_ok_iff]
    constructor
    · rintro ⟨mappings, handed, read⟩
      split at read
      · next found =>
        cases read
        exact ⟨document, fields, mappings, has, handed, readAs_of_read found, found⟩
      · cases read
    · rintro ⟨document', fields', mappings, has', handed, -, read⟩
      obtain ⟨rfl, rfl⟩ := has.unique has'
      exact ⟨mappings, handed, by rw [read]⟩
  · simp only [not_exists] at has
    rw [readDocument_of_noFields has]
    refine iff_of_false nofun ?_
    rintro ⟨document, fields, _, has', -⟩
    exact has document fields has'

theorem readDocument_eq_error_iff {fault : TextFault} :
    readDocument index value = .error fault ↔ Refused index value fault := by
  by_cases has : ∃ document fields, HasFields value document fields
  · obtain ⟨document, fields, has⟩ := has
    rw [readDocument_of_hasFields has, bind_eq_error_iff]
    simp only [mappingsOf_eq_ok_iff, mappingsOf_eq_error_iff]
    constructor
    · rintro (⟨key, first, rfl⟩ | ⟨mappings, handed, read⟩)
      · exact .fieldNotMap has first
      · split at read
        · cases read
        · next found =>
          cases read
          exact .types has handed found
    · intro refused
      cases refused with
      | noFields missing => exact absurd has (missing document fields)
      | fieldNotMap has' first =>
        obtain ⟨rfl, rfl⟩ := has.unique has'
        exact .inl ⟨_, first, rfl⟩
      | types has' handed read =>
        obtain ⟨rfl, rfl⟩ := has.unique has'
        exact .inr ⟨_, handed, by rw [read]⟩
  · simp only [not_exists] at has
    rw [readDocument_of_noFields has]
    constructor
    · rintro ⟨⟩
      exact .noFields has
    · intro refused
      cases refused with
      | noFields => rfl
      | fieldNotMap has' => exact absurd has' (has _ _)
      | types has' => exact absurd has' (has _ _)

end

/-! ## Texts -/

/-- The documents of a text that are not null. -/
def Documents (text : Text) (documents : List Value) : Prop :=
  ∃ values, Yaml.readAll text = .ok values ∧ documents = values.filter fun v => !v.isNull

/-- The first document that is refused, after documents that are read. -/
def FirstRefused (text : Text) (fault : TextFault) : Prop :=
  ∃ before value after, Documents text (before ++ value :: after) ∧ (∀ v ∈ before, ∃ draft, ReadFrom v draft) ∧
    Refused before.length value fault

section
variable {text : Text}

theorem readText_of_documents {documents : List Value} (h : Documents text documents) :
    readText text = documents.zipIdx.mapM fun (value, index) => readDocument index value := by
  obtain ⟨values, read, rfl⟩ := h
  rw [readText, read]

theorem Documents.unique {documents others : List Value} (h : Documents text documents) (h' : Documents text others) :
    documents = others := by
  obtain ⟨values, read, rfl⟩ := h
  obtain ⟨values', read', rfl⟩ := h'
  cases read.symm.trans read'
  rfl

theorem readText_eq_ok_iff {drafts : List ConfigDraft} :
    readText text = .ok drafts ↔ ∃ documents, Documents text documents ∧ List.Forall₂ ReadFrom documents drafts := by
  -- Where the documents are known, they are read one by one, whatever their numbers.
  have numbered (documents : List Value) :
      List.Forall₂ (fun entry draft => readDocument entry.2 entry.1 = .ok draft) documents.zipIdx drafts ↔
        List.Forall₂ ReadFrom documents drafts := by
    conv_rhs => rw [← List.zipIdx_map_fst 0 documents, List.forall₂_map_left_iff]
    simp only [readDocument_eq_ok_iff]
  constructor
  · intro h
    cases read : Yaml.readAll text with
    | error fault =>
      rw [readText, read] at h
      cases h
    | ok values =>
      have found : Documents text _ := ⟨values, read, rfl⟩
      rw [readText_of_documents found, mapM_eq_ok_iff] at h
      exact ⟨_, found, (numbered _).1 h⟩
  · rintro ⟨documents, found, h⟩
    rw [readText_of_documents found, mapM_eq_ok_iff]
    exact (numbered documents).2 h

/-- Documents are read in order, and the first that is refused ends the reading. -/
theorem readText_of_documents_eq_error_iff {documents : List Value} (h : Documents text documents) {fault : TextFault} :
    readText text = .error fault ↔ FirstRefused text fault := by
  have numbered (before : List Value) :
      (∀ entry ∈ before.zipIdx, ∃ draft, readDocument entry.2 entry.1 = .ok draft) ↔
        ∀ v ∈ before, ∃ draft, ReadFrom v draft := by
    conv_rhs => rw [← List.zipIdx_map_fst 0 before, List.forall_mem_map]
    simp only [readDocument_eq_ok_iff]
  rw [readText_of_documents h, mapM_eq_error_iff]
  constructor
  · rintro ⟨before, ⟨value, index⟩, after, whole, good, refused⟩
    obtain ⟨before, rest, rfl, rfl, tail⟩ := List.zipIdx_eq_append_iff.1 whole
    obtain ⟨_, after, rfl, same, -⟩ := List.zipIdx_eq_cons_iff.1 tail.symm
    cases same
    rw [Nat.zero_add] at refused
    exact ⟨before, value, after, h, (numbered before).1 good, readDocument_eq_error_iff.1 refused⟩
  · rintro ⟨before, value, after, found, good, refused⟩
    rw [h.unique found, List.zipIdx_append, List.zipIdx_cons, Nat.zero_add]
    exact ⟨_, (value, before.length), _, rfl, (numbered before).2 good, readDocument_eq_error_iff.2 refused⟩

theorem readText_eq_error_iff {fault : TextFault} :
    readText text = .error fault ↔ (∃ f, Yaml.readAll text = .error f ∧ fault = .yaml f) ∨ FirstRefused text fault := by
  cases read : Yaml.readAll text with
  | error f =>
    have noDocuments : ¬FirstRefused text fault := by
      rintro ⟨before, value, after, ⟨values, read', -⟩, -⟩
      cases read.symm.trans read'
    rw [or_iff_left noDocuments, readText, read]
    constructor
    · rintro ⟨⟩
      exact ⟨f, rfl, rfl⟩
    · rintro ⟨f, ⟨⟩, rfl⟩
      rfl
  | ok values =>
    have noFault : ¬∃ f, Except.ok values = .error f ∧ fault = .yaml f := by
      rintro ⟨f, ⟨⟩, -⟩
    rw [or_iff_right noFault]
    exact readText_of_documents_eq_error_iff ⟨values, read, rfl⟩

/-! ## What callers are told -/

/-- Callers are told nothing exactly when a scalar has no value, or a key that would be named cannot be written. -/
theorem failure?_eq_error_iff {fault : TextFault} : (∃ reason, fault.failure? = .error reason) ↔
    (∃ f, f ≠ .malformed ∧ fault = .yaml f) ∨ ∃ index key, key.isWritable = false ∧ fault = .fieldNotMap index key := by
  cases fault with
  | yaml f =>
    have reported : (∃ reason, (TextFault.yaml f).failure? = .error reason) ↔ f ≠ .malformed := by
      cases f with
      | malformed => exact iff_of_false nofun fun h => h rfl
      | _ => exact iff_of_true ⟨_, rfl⟩ nofun
    rw [reported]
    constructor
    · exact fun other => .inl ⟨f, other, rfl⟩
    · rintro (⟨_, other, ⟨⟩⟩ | ⟨_, _, -, ⟨⟩⟩)
      exact other
  | noFields index => exact iff_of_false nofun (by rintro (⟨_, -, ⟨⟩⟩ | ⟨_, _, -, ⟨⟩⟩))
  | types index found => exact iff_of_false nofun (by rintro (⟨_, -, ⟨⟩⟩ | ⟨_, _, -, ⟨⟩⟩))
  | fieldNotMap index key =>
    rw [TextFault.failure?]
    constructor
    · rintro ⟨reason, h⟩
      split at h
      · cases h
      · next unwritable => exact .inr ⟨index, key, Bool.eq_false_iff.2 unwritable, rfl⟩
    · rintro (⟨_, -, ⟨⟩⟩ | ⟨_, _, unwritable, ⟨⟩⟩)
      rw [unwritable]
      exact ⟨_, rfl⟩

/-- Whatever callers are told, it is that the configuration cannot be loaded. -/
theorem cls_of_failure? {fault : TextFault} {failure : Failure} (h : fault.failure? = .ok failure) :
    failure.cls = .configLoad := by
  cases fault with
  | yaml f =>
    cases f with
    | malformed =>
      cases h
      rfl
    | _ => cases h
  | noFields index =>
    cases h
    rfl
  | types index found =>
    cases h
    rfl
  | fieldNotMap index key =>
    rw [TextFault.failure?] at h
    split at h
    · cases h
      rfl
    · cases h

/-- Reading ends as it is told to: with drafts, or with the failure for a configuration that cannot be loaded. -/
def Ends (text : Text) : Prop :=
  (∃ drafts, readText text = .ok drafts) ∨
    ∃ fault failure, readText text = .error fault ∧ fault.failure? = .ok failure ∧ failure.cls = .configLoad

/-- After documents that are read comes one with a field that is no map, after fields that are, and whose key cannot be
written. -/
def StopsAtKey (text : Text) : Prop :=
  ∃ before value after document fields key, Documents text (before ++ value :: after) ∧
    (∀ v ∈ before, ∃ draft, ReadFrom v draft) ∧ HasFields value document fields ∧ FirstNoMap fields key ∧
    key.isWritable = false

theorem stopsAtKey_iff : StopsAtKey text ↔
    ∃ index key, key.isWritable = false ∧ FirstRefused text (.fieldNotMap index key) := by
  constructor
  · rintro ⟨before, value, after, document, fields, key, found, good, has, first, unwritable⟩
    exact ⟨before.length, key, unwritable, before, value, after, found, good, .fieldNotMap has first⟩
  · rintro ⟨index, key, unwritable, before, value, after, found, good, refused⟩
    cases refused with
    | fieldNotMap has first => exact ⟨before, value, after, _, _, key, found, good, has, first, unwritable⟩

theorem ends_iff_reported :
    Ends text ↔ FailsWith (fun fault => ∃ failure, fault.failure? = .ok failure) (readText text) :=
  ok_or_told_iff fun _ _ _ => cls_of_failure?

/-- Nothing else is in the way of such an end. -/
theorem ends_iff_unless : Ends text ↔
    (∀ fault, Yaml.readAll text = .error fault → fault = .malformed) ∧ ¬StopsAtKey text := by
  rw [ends_iff_reported, stopsAtKey_iff]
  constructor
  · intro reported
    have notSilent (fault : TextFault) (refused : readText text = .error fault) :
        ¬∃ reason, fault.failure? = .error reason := by
      rintro ⟨reason, silent⟩
      obtain ⟨failure, told⟩ := reported fault refused
      cases told.symm.trans silent
    constructor
    · intro fault read
      by_contra other
      exact notSilent _ (readText_eq_error_iff.2 (.inl ⟨fault, read, rfl⟩))
        (failure?_eq_error_iff.2 (.inl ⟨fault, other, rfl⟩))
    · rintro ⟨index, key, unwritable, refused⟩
      exact notSilent _ (readText_eq_error_iff.2 (.inr refused))
        (failure?_eq_error_iff.2 (.inr ⟨index, key, unwritable, rfl⟩))
  · rintro ⟨formed, noKey⟩ fault refused
    cases told : fault.failure? with
    | ok failure => exact ⟨failure, rfl⟩
    | error reason =>
      exfalso
      rcases failure?_eq_error_iff.1 ⟨reason, told⟩ with ⟨f, other, rfl⟩ | ⟨index, key, unwritable, rfl⟩
      · rcases readText_eq_error_iff.1 refused with ⟨_, read, ⟨⟩⟩ | ⟨_, _, _, _, _, ⟨⟩⟩
        exact other (formed f read)
      · rcases readText_eq_error_iff.1 refused with ⟨_, -, ⟨⟩⟩ | refused
        exact noKey ⟨index, key, unwritable, refused⟩

end

/-- Of any text, the drafts are read of which there is one for every document that is not null, with one mapping for
every entry of its fields, in order. All that callers are told otherwise is that the configuration cannot be loaded, and
they are told so unless a scalar has no value or a field that is no map has a key that cannot be written. A text that is
read no further for a scalar has one among its tokens without a value for its tag, or an escape that names no character,
or a version number that is too long. -/
theorem readText_outcome (text : Text) :
    (∀ drafts, readText text = .ok drafts ↔
      ∃ documents, Documents text documents ∧ List.Forall₂ ReadFrom documents drafts) ∧
    (∀ fault failure, readText text = .error fault → fault.failure? = .ok failure → failure.cls = .configLoad) ∧
    (Ends text ↔ (∀ fault, Yaml.readAll text = .error fault → fault = .malformed) ∧ ¬StopsAtKey text) ∧
    ∀ fault, Yaml.readAll text = .error fault → Yaml.TextFault (Yaml.tokens text).1 fault := by
  exact ⟨fun _ => readText_eq_ok_iff, fun _ _ _ => cls_of_failure?, ends_iff_unless, Yaml.textFault_of_readAll text⟩

/-- A document where the length of a field is a date, of a day that there is none of. -/
def noSuchDay : Text := "fields:\n  a:\n    length: 2024-02-30\n"

/-- The fault of the scalar is not reported as that of a configuration that cannot be loaded. -/
theorem ends_noSuchDay : Yaml.readAll noSuchDay = .error (.calendar .day) ∧ ¬Ends noSuchDay := by
  have unread : (Yaml.readAll noSuchDay).map (fun _ => ()) = .error (.calendar .day) := by decide +kernel
  have read : Yaml.readAll noSuchDay = .error (.calendar .day) := by
    cases found : Yaml.readAll noSuchDay with
    | error fault =>
      rw [found] at unread
      cases unread
      rfl
    | ok values =>
      rw [found] at unread
      cases unread
  refine ⟨read, fun ends => ?_⟩
  have malformed := (ends_iff_unless.1 ends).1 _ read
  cases malformed

end FixedExtract.Compiled
