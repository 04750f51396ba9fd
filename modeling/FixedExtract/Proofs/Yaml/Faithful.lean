import FixedExtract.Proofs.Yaml.Node
import FixedExtract.Proofs.Yaml.Unfolding
import FixedExtract.Yaml.Reader
/-!
# Reading what was written

A document that is written is the only one that is read from the text, unless a text or a key in it is one
that reading changes or cannot find.
-/

namespace FixedExtract.Yaml

variable {s : Reading} {token : Token} {rest : List Token} {ch : Char}

/-- What can be shown may be read. -/
theorem isAllowed_of_isShown (h : isShown ch = true) : isAllowed ch = true := by
  simp only [isShown, Bool.or_eq_true, Bool.and_eq_true, decide_eq_true_eq] at h
  rcases h with ((rfl | ascii) | rfl) | ⟨-, (low | high) | astral⟩
  · rfl
  · simp [isAllowed, ascii]
  · rfl
  · simp [isAllowed, low]
  · simp [isAllowed, high]
  · simp [isAllowed, astral]

/-! ## Around a document -/

/-- A map starts without a mark. -/
theorem readStart_bare (h : s.tokens = .blockMappingStart :: rest) :
    (readStart true).run s = .ok (some .bare, { s with handles := defaultHandles }) := by
  cases s
  cases h
  rfl

/-- Behind the only document nothing is left. -/
theorem readStart_end (h : s.tokens = [.streamEnd]) : (readStart false).run s = .ok (none, s) := by
  cases s
  cases h
  rfl

/-- The root of a document is read, up to the end of the text. -/
theorem readRoot_run {document : Document} (legible : document.Legible)
    (h : s.tokens = document.tokens false ++ [.streamEnd]) :
    ∃ g, (readRoot .bare).run s = .ok (0, { s with tokens := [.streamEnd], graph := g, anchors := [] }) ∧
      StandsFor g 0 document := by
  have enough : 4 * (document.tokens false).length ≤ 4 * s.tokens.length + 4 := by
    rw [h, List.length_append]
    omega
  obtain ⟨id, g, run, -, rfl, stands⟩ := Document.reads_node document legible
    (s := { s with graph := .empty, anchors := [] }) h enough (.inr ⟨rfl, rfl⟩) (by simp)
  refine ⟨g, ?_, stands⟩
  show (readNode (4 * s.tokens.length + 4) .block >>= fun root => (do
    if ← nextIs [.documentEnd] then dropToken
    return root) : Read NodeId).run { s with graph := .empty, anchors := [] } = _
  rw [StateT.run_bind, run, ok_bind]
  rfl

/-- A map that is written is read back. -/
theorem readAll_write (entry : Text × Document) (entries : List (Text × Document))
    (legible : (Document.map (entry :: entries)).Legible) :
    readAll (write (.map (entry :: entries))) = .ok [(Document.map (entry :: entries)).toValue] := by
  have allowed : (write (.map (entry :: entries))).all isAllowed = true :=
    List.all_eq_true.2 fun ch hc => isAllowed_of_isShown (isShown_write _ ch hc)
  have scanned := Document.tokens_write entry entries legible
  generalize tokens : (Document.map (entry :: entries)).tokens false ++ [.streamEnd] = list at scanned
  have started : startReading (write (.map (entry :: entries))) = .ok ⟨list, none, .empty, [], []⟩ := by
    rw [startReading, if_pos allowed, scanned]
  obtain ⟨rest, first⟩ : ∃ rest, list = .blockMappingStart :: rest := by
    rw [← tokens, Document.tokens]
    exact ⟨_, rfl⟩
  have bare := readStart_bare (s := ⟨list, none, .empty, [], []⟩) first
  obtain ⟨g, root, stands⟩ := readRoot_run (s := ⟨list, none, .empty, [], defaultHandles⟩) legible tokens.symm
  have value := valueOf_run stands legible
  have read : readValue .bare ⟨list, none, .empty, [], defaultHandles⟩ =
      .ok ((Document.map (entry :: entries)).toValue, ⟨[.streamEnd], none, g, [], defaultHandles⟩) := by
    rw [readValue, root, ok_bind]
    show (valueOf 0 g >>= _) = _
    rw [value]
    rfl
  have ended := readStart_end (s := ⟨[.streamEnd], none, g, [], defaultHandles⟩) rfl
  have last : readRest (list.length + 1) false ⟨[.streamEnd], none, g, [], defaultHandles⟩ = .ok [] := by
    rw [readRest, ended]
    rfl
  rw [readAll, started, ok_bind]
  show readRest (list.length + 2) true _ = _
  rw [readRest, bare, ok_bind]
  show (readValue .bare _ >>= fun result => do
    return result.1 :: (← readRest (list.length + 1) false result.2)) = _
  rw [read, ok_bind, last]
  rfl

/-! ## Part by part -/

namespace Document

mutual

/-- The documents that a document consists of, itself among them. -/
def parts : Document → List Document
  | .text t => [.text t]
  | .int n => [.int n]
  | .list items => .list items :: itemParts items
  | .map entries => .map entries :: entryParts entries

def itemParts : List Document → List Document
  | [] => []
  | item :: rest => item.parts ++ itemParts rest

def entryParts : List (Text × Document) → List Document
  | [] => []
  | (_, item) :: rest => item.parts ++ entryParts rest

end

/-- What holds of all parts of a list holds of the list and of all parts of its items. -/
theorem forall_parts_list_iff {P : Document → Prop} {items : List Document} :
    (∀ part ∈ (Document.list items).parts, P part) ↔
      P (.list items) ∧ ∀ item ∈ items, ∀ part ∈ item.parts, P part := by
  have inside : (∀ part ∈ itemParts items, P part) ↔ ∀ item ∈ items, ∀ part ∈ item.parts, P part := by
    induction items with
    | nil => simp [itemParts]
    | cons item rest ih => rw [itemParts, List.forall_mem_append, ih, List.forall_mem_cons]
  rw [parts, List.forall_mem_cons, inside]

/-- What holds of all parts of a map holds of the map and of all parts of what its keys have. -/
theorem forall_parts_map_iff {P : Document → Prop} {entries : List (Text × Document)} :
    (∀ part ∈ (Document.map entries).parts, P part) ↔
      P (.map entries) ∧ ∀ entry ∈ entries, ∀ part ∈ entry.2.parts, P part := by
  have inside : (∀ part ∈ entryParts entries, P part) ↔
      ∀ entry ∈ entries, ∀ part ∈ entry.2.parts, P part := by
    induction entries with
    | nil => simp [entryParts]
    | cons entry rest ih => rw [entryParts, List.forall_mem_append, ih, List.forall_mem_cons]
  rw [parts, List.forall_mem_cons, inside]

/-- The document itself has no key twice. -/
def HasDistinctKeys : Document → Prop
  | .map entries => (entries.map Prod.fst).Nodup
  | _ => True

/-- No map in the document has a key twice. -/
def KeysDiffer (document : Document) : Prop := ∀ part ∈ document.parts, part.HasDistinctKeys

@[simp] theorem keysDiffer_text (text : Text) : (Document.text text).KeysDiffer := by
  simp [KeysDiffer, parts, HasDistinctKeys]

@[simp] theorem keysDiffer_int (n : Int) : (Document.int n).KeysDiffer := by
  simp [KeysDiffer, parts, HasDistinctKeys]

theorem keysDiffer_list_iff {items : List Document} :
    (Document.list items).KeysDiffer ↔ ∀ item ∈ items, item.KeysDiffer :=
  forall_parts_list_iff.trans (and_iff_right trivial)

theorem keysDiffer_map_iff {entries : List (Text × Document)} :
    (Document.map entries).KeysDiffer ↔
      (entries.map Prod.fst).Nodup ∧ ∀ entry ∈ entries, entry.2.KeysDiffer :=
  forall_parts_map_iff

/-- What is written of the document itself is read as it is written. -/
def IsKept : Document → Prop
  | .text t => IsLegible t
  | .int n => (Text.ofNat n.natAbs).length ≤ Text.maxDigits
  | .list _ => True
  | .map entries => ∀ entry ∈ entries, IsLegibleKey entry.1

instance : DecidablePred IsKept
  | .text t => inferInstanceAs (Decidable ('\u0085' ∈ t → styleOf t = .double))
  | .int n => inferInstanceAs (Decidable ((Text.ofNat n.natAbs).length ≤ Text.maxDigits))
  | .list _ => inferInstanceAs (Decidable True)
  | .map entries => inferInstanceAs (Decidable (∀ entry ∈ entries,
      ('\u0085' ∈ entry.1 → styleOf entry.1 = .double) ∧
        (isSimpleKey entry.1 = true → (writeText 0 entry.1).length ≤ 1024)))

/-- Every text, key and number in the document is read as it is written. -/
def Kept (document : Document) : Prop := ∀ part ∈ document.parts, part.IsKept

instance (document : Document) : Decidable document.Kept :=
  inferInstanceAs (Decidable (∀ part ∈ document.parts, part.IsKept))

mutual

/-- Where keys differ, a document whose parts are all kept is legible. -/
theorem legible_of_kept (document : Document) (kept : document.Kept) (differ : document.KeysDiffer) :
    document.Legible := by
  match document with
  | .text t => exact kept (.text t) (by simp [parts])
  | .int n => exact kept (.int n) (by simp [parts])
  | .list items =>
    exact allLegible_of_kept items (forall_parts_list_iff.1 kept).2 (keysDiffer_list_iff.1 differ)
  | .map entries =>
    obtain ⟨keys, inside⟩ := forall_parts_map_iff.1 kept
    obtain ⟨distinct, others⟩ := keysDiffer_map_iff.1 differ
    exact ⟨distinct, entriesLegible_of_kept entries keys inside others⟩

theorem allLegible_of_kept (items : List Document) (kept : ∀ item ∈ items, item.Kept)
    (differ : ∀ item ∈ items, item.KeysDiffer) : AllLegible items := by
  match items with
  | [] => trivial
  | item :: rest =>
    rw [List.forall_mem_cons] at kept differ
    exact ⟨legible_of_kept item kept.1 differ.1, allLegible_of_kept rest kept.2 differ.2⟩

theorem entriesLegible_of_kept (entries : List (Text × Document))
    (keys : ∀ entry ∈ entries, IsLegibleKey entry.1) (kept : ∀ entry ∈ entries, entry.2.Kept)
    (differ : ∀ entry ∈ entries, entry.2.KeysDiffer) : EntriesLegible entries := by
  match entries with
  | [] => trivial
  | (key, item) :: rest =>
    rw [List.forall_mem_cons] at keys kept differ
    exact ⟨keys.1, legible_of_kept item kept.1 differ.1, entriesLegible_of_kept rest keys.2 kept.2 differ.2⟩

end

end Document

end FixedExtract.Yaml
