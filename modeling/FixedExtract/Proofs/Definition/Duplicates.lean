import FixedExtract.Proofs.Definition.Handover
import FixedExtract.Proofs.Ordering
/-!
# What is held more than once

The check of a whole definition groups the mappings three times: by position, by name, and by the key that the name
has in a compiled document. Mappings with type faults take part with what could be read of them. Every group of two
is told once, in the order in which what it shares first occurs, and groups of names with one key count a name that
is repeated only once.
-/

namespace FixedExtract.Definition

/-! ## First occurrences -/

section
variable {α : Type} [BEq α]

/-- The list has what fulfils the property, each once and in the order in which it first occurs among the given. -/
structure FirstOccurrences (given : List α) (fulfils : α → Prop) (listed : List α) : Prop where
  mem_iff : ∀ a, a ∈ listed ↔ fulfils a
  ascending : listed.Pairwise fun a b => given.idxOf a < given.idxOf b

theorem FirstOccurrences.nodup {given listed : List α} {fulfils : α → Prop}
    (h : FirstOccurrences given fulfils listed) : listed.Nodup := by
  refine h.ascending.imp ?_
  intro a b before same
  rw [same] at before
  exact Nat.lt_irrefl _ before

variable [LawfulBEq α]

/-- Leaving others out does not change which of two elements occurs first. -/
theorem idxOf_filter_lt_iff {given : List α} {p : α → Bool} {a b : α} (ha : p a = true) (hb : p b = true) :
    (given.filter p).idxOf a < (given.filter p).idxOf b ↔ given.idxOf a < given.idxOf b := by
  induction given with
  | nil => rfl
  | cons first rest ih =>
    by_cases kept : p first = true
    · rw [List.filter_cons_of_pos kept, List.idxOf_cons, List.idxOf_cons, List.idxOf_cons, List.idxOf_cons]
      by_cases isA : (first == a) = true
      · by_cases isB : (first == b) = true
        · simp [isA, isB]
        · simp [isA, isB]
      · by_cases isB : (first == b) = true
        · simp [isA, isB]
        · simpa [isA, isB] using ih
    · -- What is left out is neither of the two, and stands in front of both or of none.
      have notA : first ≠ a := fun same => kept (same ▸ ha)
      have notB : first ≠ b := fun same => kept (same ▸ hb)
      rw [List.filter_cons_of_neg kept, List.idxOf_cons_ne _ notA, List.idxOf_cons_ne _ notB, Nat.succ_lt_succ_iff]
      exact ih

/-- Without repetitions, elements stand in the order in which they first occur. -/
theorem ascending_eraseDups (given : List α) :
    given.eraseDups.Pairwise fun a b => given.idxOf a < given.idxOf b := by
  match given with
  | [] => exact List.Pairwise.nil
  | first :: rest =>
    have later : ∀ a ∈ (rest.filter fun b => !b == first).eraseDups, first ≠ a ∧ (!a == first) = true := by
      intro a member
      have other := (List.mem_filter.1 (List.mem_eraseDups.1 member)).2
      refine ⟨?_, other⟩
      intro same
      simp [same] at other
    rw [List.eraseDups_cons, List.pairwise_cons]
    constructor
    · intro a member
      rw [List.idxOf_cons_self, List.idxOf_cons_ne _ (later a member).1]
      exact Nat.succ_pos _
    · refine (ascending_eraseDups (rest.filter fun b => !b == first)).imp_of_mem ?_
      intro a b memberA memberB before
      rw [List.idxOf_cons_ne _ (later a memberA).1, List.idxOf_cons_ne _ (later b memberB).1]
      exact Nat.succ_lt_succ ((idxOf_filter_lt_iff (p := fun b => !b == first) (later a memberA).2
        (later b memberB).2).1 before)
termination_by given.length
decreasing_by
  exact Nat.lt_succ_of_le (List.length_filter_le _ rest)

/-- What is repeated is told once, in the order in which it first occurs. -/
theorem firstOccurrences_repeated (values : List α) :
    FirstOccurrences values (fun a => 2 ≤ values.count a) (repeated values) where
  mem_iff a := by
    rw [repeated, List.mem_filter, List.mem_eraseDups, decide_eq_true_eq]
    constructor
    · exact And.right
    · intro twice
      have some : 0 < values.count a := by omega
      exact ⟨List.count_pos_iff.1 some, twice⟩
  ascending := (ascending_eraseDups values).filter _

end

/-! ## Positions and names -/

theorem mem_targetNames_iff {mappings : List MappingDraft} {name : Text} :
    name ∈ targetNames mappings ↔ ∃ m ∈ mappings, m.targetFieldName = some name ∧ Text.isBlank name = false := by
  simp only [targetNames, List.mem_filterMap, Text.filter_nonBlank_eq_some_iff]

/-- A name that is not blank is counted once for every mapping that has it. -/
theorem count_targetNames {mappings : List MappingDraft} {name : Text} (nonBlank : Text.isBlank name = false) :
    (targetNames mappings).count name = mappings.countP fun m => m.targetFieldName = some name := by
  rw [targetNames, List.count_filterMap]
  refine List.countP_congr ?_
  intro m _
  rw [beq_iff_eq, Text.filter_nonBlank_eq_some_iff, decide_eq_true_eq]
  exact and_iff_left nonBlank

theorem count_positions {mappings : List MappingDraft} {position : Int} :
    (mappings.filterMap MappingDraft.targetPosition).count position =
      mappings.countP fun m => m.targetPosition = some position := by
  rw [List.count_filterMap]
  refine List.countP_congr ?_
  intro m _
  rw [beq_iff_eq, decide_eq_true_eq]

/-- Names are repeated when two mappings have them and they are not blank. -/
theorem two_le_count_targetNames_iff {mappings : List MappingDraft} {name : Text} :
    2 ≤ (targetNames mappings).count name ↔
      Text.isBlank name = false ∧ 2 ≤ mappings.countP fun m => m.targetFieldName = some name := by
  constructor
  · intro twice
    have member : name ∈ targetNames mappings := List.count_pos_iff.1 (by omega)
    obtain ⟨_, -, -, nonBlank⟩ := mem_targetNames_iff.1 member
    rw [count_targetNames nonBlank] at twice
    exact ⟨nonBlank, twice⟩
  · intro h
    rw [count_targetNames h.1]
    exact h.2

/-! ## Keys -/

/-- The names of a key, each once and in order. -/
theorem firstOccurrences_namesOfKey (names : List Text) (key : Text) :
    FirstOccurrences names (fun name => name ∈ names ∧ fieldKey name = key)
      (namesOfKey (names.map fun name => (fieldKey name, name)) key) := by
  have plain : ((names.map fun name => (fieldKey name, name)).filter fun entry => entry.1 == key).map Prod.snd =
      names.filter fun name => fieldKey name == key := by
    rw [List.filter_map, List.map_map]
    exact List.map_id _
  rw [namesOfKey, plain]
  constructor
  · intro name
    rw [List.mem_eraseDups, List.mem_filter, beq_iff_eq]
  · refine (ascending_eraseDups _).imp_of_mem ?_
    intro a b memberA memberB before
    have keyA := (List.mem_filter.1 (List.mem_eraseDups.1 memberA)).2
    have keyB := (List.mem_filter.1 (List.mem_eraseDups.1 memberB)).2
    exact (idxOf_filter_lt_iff (p := fun name => fieldKey name == key) keyA keyB).1 before

/-- The key is one that different names have. -/
def IsShared (names : List Text) (key : Text) : Prop :=
  ∃ a ∈ names, ∃ b ∈ names, fieldKey a = key ∧ fieldKey b = key ∧ a ≠ b

/-- The keys that different names share, each once and in order. -/
def sharedKeys (names : List Text) : List Text :=
  (names.map fieldKey).eraseDups.filter fun key =>
    1 < (namesOfKey (names.map fun name => (fieldKey name, name)) key).length

theorem firstOccurrences_sharedKeys (names : List Text) :
    FirstOccurrences (names.map fieldKey) (IsShared names) (sharedKeys names) where
  mem_iff key := by
    rw [sharedKeys, List.mem_filter, List.mem_eraseDups, decide_eq_true_eq, one_lt_length_namesOfKey_iff]
    constructor
    · exact And.right
    · intro shared
      have known : key ∈ names.map fieldKey := by
        obtain ⟨a, ha, -, -, rfl, -⟩ := shared
        exact List.mem_map_of_mem ha
      exact ⟨known, shared⟩
  ascending := (ascending_eraseDups _).filter _

/-- A key with the names that share it, if that is what is wrong. -/
def ShapeFault.keyCollision? : ShapeFault → Option (Text × List Text)
  | .keyCollision key names => some (key, names)
  | _ => none

/-- The keys that different names share, with these names. -/
def ShapeReport.collisions (report : ShapeReport) : List (Text × List Text) :=
  report.errors.filterMap ShapeFault.keyCollision?

theorem exists_of_mem_keyCollisions {names : List Text} {fault : ShapeFault} (h : fault ∈ keyCollisions names) :
    ∃ key shared, fault = .keyCollision key shared := by
  obtain ⟨key, -, made⟩ := List.mem_filterMap.1 h
  dsimp only at made
  split at made
  · cases made
    exact ⟨_, _, rfl⟩
  · cases made

/-- Keys that are shared give none of the other faults. -/
theorem filterMap_keyCollisions_eq_nil {β : Type} {f : ShapeFault → Option β} {names : List Text}
    (other : ∀ key shared, f (.keyCollision key shared) = none) : (keyCollisions names).filterMap f = [] := by
  rw [List.filterMap_eq_nil_iff]
  intro found member
  obtain ⟨key, shared, rfl⟩ := exists_of_mem_keyCollisions member
  exact other key shared

/-- For every key that is shared there is one fault, with the names of the key. -/
theorem collisions_keyCollisions (names : List Text) :
    (keyCollisions names).filterMap ShapeFault.keyCollision? =
      (sharedKeys names).map fun key => (key, namesOfKey (names.map fun name => (fieldKey name, name)) key) := by
  have keys : (names.map fun name => (fieldKey name, name)).map Prod.fst = names.map fieldKey := by
    rw [List.map_map]
    rfl
  have told (list : List Text) (p : Text → Bool) (g : Text → Text × List Text) :
      (list.filter p).map g = list.filterMap fun key => if p key then some (g key) else none := by
    rw [← List.filterMap_eq_map, List.filterMap_filter]
    rfl
  rw [keyCollisions, sharedKeys, keys, told, List.filterMap_filterMap]
  refine List.filterMap_congr ?_
  intro key _
  dsimp only
  split
  · next shared =>
    rw [if_pos (decide_eq_true shared)]
    rfl
  · next single =>
    rw [if_neg (by simpa using single)]
    rfl

/-! ## Reports -/

section
variable {β : Type} {f : ShapeFault → Option β} {fault : β → ShapeFault}

/-- What a selection of faults of groups takes from a report comes from the three groupings. -/
theorem filterMap_errors (groups : ∀ found : ShapeFault, found.duplicatePosition? = none → found.duplicateName? = none →
      found.keyCollision? = none → f found = none) (maximum : Int) (submission : Submission) :
    let mappings := (readSubmission submission).draft.mappings
    (checkShape maximum submission).errors.filterMap f =
      (repeated (mappings.filterMap MappingDraft.targetPosition)).filterMap (f ∘ .duplicatePosition) ++
        ((repeated (targetNames mappings)).filterMap (f ∘ .duplicateName) ++
          (keyCollisions (targetNames mappings)).filterMap f) := by
  intro mappings
  have noTypes : ((readSubmission submission).faults.map .wrongType).filterMap f = [] := by
    rw [List.filterMap_map, List.filterMap_eq_nil_iff]
    exact fun _ _ => groups _ rfl rfl rfl
  have noMappings : (checkMappings (readSubmission submission)).errors.filterMap f = [] := by
    rw [List.filterMap_eq_nil_iff]
    intro found member
    obtain ⟨label, found, rfl⟩ := exists_mapping_of_mem_checkMappings member
    exact groups _ rfl rfl rfl
  have noWidth : (checkLength maximum (readSubmission submission).draft).filterMap f = [] := by
    rw [List.filterMap_eq_nil_iff]
    intro found member
    dsimp only [checkLength] at member
    split at member
    · rw [List.mem_singleton.1 member]
      exact groups _ rfl rfl rfl
    · cases member
  have noPart (missing : Bool) {found : ShapeFault} (alone : f found = none) :
      (if missing then [found] else []).filterMap f = [] := by
    cases missing with
    | true => exact List.filterMap_cons_none alone
    | false => rfl
  simp only [checkShape, checkWhole, List.filterMap_append, noTypes, noMappings, noWidth,
    noPart _ (groups .noMappings rfl rfl rfl), noPart _ (groups .noSourceSystem rfl rfl rfl),
    noPart _ (groups .noJobName rfl rfl rfl), List.filterMap_map, List.nil_append, List.append_nil,
    List.append_assoc]
  rfl

/-- What is told by one kind of faults is told as often as there are such faults. -/
theorem count_errors [BEq β] [LawfulBEq β] (h : ∀ found b, f found = some b ↔ found = fault b)
    (errors : List ShapeFault) (b : β) : errors.count (fault b) = (errors.filterMap f).count b := by
  rw [List.count_filterMap, List.count_eq_countP]
  refine List.countP_congr ?_
  intro found _
  rw [beq_iff_eq, beq_iff_eq]
  exact (h found b).symm

end

section
variable (maximum : Int) (submission : Submission)

theorem duplicatePositions_checkShape :
    (checkShape maximum submission).duplicatePositions =
      repeated ((readSubmission submission).draft.mappings.filterMap MappingDraft.targetPosition) := by
  have names (list : List Text) : list.filterMap (ShapeFault.duplicatePosition? ∘ .duplicateName) = [] :=
    List.filterMap_eq_nil_iff.2 fun _ _ => rfl
  have positions (list : List Int) : list.filterMap (ShapeFault.duplicatePosition? ∘ .duplicatePosition) = list :=
    List.filterMap_some
  rw [ShapeReport.duplicatePositions, filterMap_errors (fun _ position _ _ => position), names,
    filterMap_keyCollisions_eq_nil fun _ _ => rfl, positions, List.append_nil, List.append_nil]

theorem duplicateNames_checkShape :
    (checkShape maximum submission).duplicateNames =
      repeated (targetNames (readSubmission submission).draft.mappings) := by
  have positions (list : List Int) : list.filterMap (ShapeFault.duplicateName? ∘ .duplicatePosition) = [] :=
    List.filterMap_eq_nil_iff.2 fun _ _ => rfl
  have names (list : List Text) : list.filterMap (ShapeFault.duplicateName? ∘ .duplicateName) = list :=
    List.filterMap_some
  rw [ShapeReport.duplicateNames, filterMap_errors (fun _ _ name _ => name), positions, names,
    filterMap_keyCollisions_eq_nil fun _ _ => rfl, List.nil_append, List.append_nil]

theorem collisions_checkShape :
    (checkShape maximum submission).collisions =
      (keyCollisions (targetNames (readSubmission submission).draft.mappings)).filterMap ShapeFault.keyCollision? := by
  have positions (list : List Int) : list.filterMap (ShapeFault.keyCollision? ∘ .duplicatePosition) = [] :=
    List.filterMap_eq_nil_iff.2 fun _ _ => rfl
  have names (list : List Text) : list.filterMap (ShapeFault.keyCollision? ∘ .duplicateName) = [] :=
    List.filterMap_eq_nil_iff.2 fun _ _ => rfl
  rw [ShapeReport.collisions, filterMap_errors (fun _ _ _ key => key), positions, names, List.nil_append,
    List.nil_append]

theorem firstOccurrences_duplicatePositions :
    let mappings := (readSubmission submission).draft.mappings
    FirstOccurrences (mappings.filterMap MappingDraft.targetPosition)
      (fun position => 2 ≤ mappings.countP fun m => m.targetPosition = some position)
      (checkShape maximum submission).duplicatePositions := by
  intro mappings
  have told := firstOccurrences_repeated (mappings.filterMap MappingDraft.targetPosition)
  simp only [count_positions] at told
  rw [duplicatePositions_checkShape]
  exact told

theorem firstOccurrences_duplicateNames :
    let mappings := (readSubmission submission).draft.mappings
    FirstOccurrences (targetNames mappings)
      (fun name => Text.isBlank name = false ∧ 2 ≤ mappings.countP fun m => m.targetFieldName = some name)
      (checkShape maximum submission).duplicateNames := by
  intro mappings
  have told := firstOccurrences_repeated (targetNames mappings)
  simp only [two_le_count_targetNames_iff] at told
  rw [duplicateNames_checkShape]
  exact told

theorem firstOccurrences_collisions :
    let names := targetNames (readSubmission submission).draft.mappings
    FirstOccurrences (names.map fieldKey) (IsShared names) ((checkShape maximum submission).collisions.map Prod.fst) ∧
      ∀ key shared, (key, shared) ∈ (checkShape maximum submission).collisions →
        FirstOccurrences names (fun name => name ∈ names ∧ fieldKey name = key) shared := by
  intro names
  rw [collisions_checkShape, collisions_keyCollisions]
  constructor
  · have keys : ((sharedKeys names).map fun key =>
        (key, namesOfKey (names.map fun name => (fieldKey name, name)) key)).map Prod.fst = sharedKeys names := by
      rw [List.map_map]
      exact List.map_id _
    rw [keys]
    exact firstOccurrences_sharedKeys names
  · intro key shared member
    obtain ⟨known, -, same⟩ := List.mem_map.1 member
    cases same
    exact firstOccurrences_namesOfKey names _

end

/-- The check tells every position that two mappings hold and every name that is not blank and that two mappings have,
each once, in the order in which they first occur, and with one error. So it does with every key that different names
have, and the error has these names, each once and in order. -/
theorem checkShape_duplicates (maximum : Int) (submission : Submission) :
    let mappings := (readSubmission submission).draft.mappings
    let names := targetNames mappings
    let report := checkShape maximum submission
    (FirstOccurrences (mappings.filterMap MappingDraft.targetPosition)
        (fun position => 2 ≤ mappings.countP fun m => m.targetPosition = some position) report.duplicatePositions ∧
      ∀ position, report.errors.count (.duplicatePosition position) =
        if position ∈ report.duplicatePositions then 1 else 0) ∧
    (FirstOccurrences names
        (fun name => Text.isBlank name = false ∧ 2 ≤ mappings.countP fun m => m.targetFieldName = some name)
        report.duplicateNames ∧
      ∀ name, report.errors.count (.duplicateName name) = if name ∈ report.duplicateNames then 1 else 0) ∧
    FirstOccurrences (names.map fieldKey) (IsShared names) (report.collisions.map Prod.fst) ∧
    ∀ key shared,
      ((key, shared) ∈ report.collisions →
        FirstOccurrences names (fun name => name ∈ names ∧ fieldKey name = key) shared) ∧
      report.errors.count (.keyCollision key shared) = if (key, shared) ∈ report.collisions then 1 else 0 := by
  intro mappings names report
  have positions := firstOccurrences_duplicatePositions maximum submission
  have repeatedNames := firstOccurrences_duplicateNames maximum submission
  obtain ⟨keys, shares⟩ := firstOccurrences_collisions maximum submission
  refine ⟨⟨positions, ?_⟩, ⟨repeatedNames, ?_⟩, keys, ?_⟩
  · intro position
    have selects (found : ShapeFault) (b : Int) :
        found.duplicatePosition? = some b ↔ found = .duplicatePosition b := by
      cases found <;> simp [ShapeFault.duplicatePosition?]
    rw [count_errors selects]
    exact positions.nodup.count
  · intro name
    have selects (found : ShapeFault) (b : Text) : found.duplicateName? = some b ↔ found = .duplicateName b := by
      cases found <;> simp [ShapeFault.duplicateName?]
    rw [count_errors selects]
    exact repeatedNames.nodup.count
  · intro key shared
    have selects (found : ShapeFault) (b : Text × List Text) :
        found.keyCollision? = some b ↔ found = .keyCollision b.1 b.2 := by
      cases found <;> simp [ShapeFault.keyCollision?, Prod.ext_iff]
    refine ⟨shares key shared, ?_⟩
    rw [count_errors selects report.errors (key, shared)]
    exact keys.nodup.of_map.count

example : keyCollisions ["A_B", "C", "a-b", "A_B"] = [.keyCollision "a-b" ["A_B", "a-b"]] := by
  decide +kernel

end FixedExtract.Definition
