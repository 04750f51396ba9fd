import FixedExtract.Compiled.Failure
import Mathlib.Data.List.Basic
/-!
# Choosing a document

A request for a transaction type gets the first document of that type. Without one it gets the last of the default
type, while a request for the default type gets the first of them: it matters when hand-edited text has several. No
document at all is given exactly when there is none of the default type either.
-/

namespace FixedExtract.Compiled

open Definition (ConfigDraft)
open Definition.ConfigDraft (defaultTransactionType)

/-- The first document of a type, and the last. -/
def firstOf (type : Text) (drafts : List ConfigDraft) : Option ConfigDraft :=
  drafts.find? fun draft => draft.transactionType == type

def lastOf (type : Text) (drafts : List ConfigDraft) : Option ConfigDraft := firstOf type drafts.reverse

section
variable {type : Text} {drafts : List ConfigDraft} {draft : ConfigDraft}

theorem firstOf_eq_none_iff : firstOf type drafts = none ↔ ∀ draft ∈ drafts, draft.transactionType ≠ type := by
  rw [firstOf, List.find?_eq_none]
  simp only [beq_iff_eq, ne_eq]

theorem lastOf_eq_none_iff : lastOf type drafts = none ↔ firstOf type drafts = none := by
  rw [lastOf, firstOf_eq_none_iff, firstOf_eq_none_iff]
  simp only [List.mem_reverse]

theorem transactionType_of_firstOf (h : firstOf type drafts = some draft) : draft.transactionType = type := by
  simpa using List.find?_some h

theorem firstOf_cons_self (h : draft.transactionType = type) : firstOf type (draft :: drafts) = some draft :=
  List.find?_cons_of_pos (beq_iff_eq.2 h)

theorem firstOf_cons_of_ne (h : draft.transactionType ≠ type) : firstOf type (draft :: drafts) = firstOf type drafts :=
  List.find?_cons_of_neg (by simpa using h)

theorem lastOf_cons : lastOf type (draft :: drafts) =
    (lastOf type drafts).or (if draft.transactionType = type then some draft else none) := by
  rw [lastOf, firstOf, List.reverse_cons, List.find?_append, ← firstOf, ← lastOf, List.find?_singleton]
  simp only [beq_iff_eq]

end

/-! ## What the scan comes to -/

/-- What there is to fall back on is replaced by every document of the default type that is passed. -/
theorem choose_eq (wanted : Text) (fallback : Option ConfigDraft) (drafts : List ConfigDraft) :
    choose wanted fallback drafts =
      ((firstOf wanted drafts).or (lastOf defaultTransactionType drafts)).or fallback := by
  induction drafts generalizing fallback with
  | nil => rfl
  | cons draft rest ih =>
    rw [choose]
    split
    · next same => rw [firstOf_cons_self same, Option.some_or, Option.some_or]
    · next other =>
      rw [ih, firstOf_cons_of_ne other, lastOf_cons]
      split
      · simp only [Option.or_assoc, Option.some_or]
      · rw [Option.or_none]

/-- The document for a wanted type. -/
def documentFor (wanted : Text) (drafts : List ConfigDraft) : Option ConfigDraft :=
  (firstOf wanted drafts).or (lastOf defaultTransactionType drafts)

/-- The first document of the default type is the one for it. -/
theorem documentFor_default (drafts : List ConfigDraft) :
    documentFor defaultTransactionType drafts = firstOf defaultTransactionType drafts := by
  rw [documentFor]
  cases found : firstOf defaultTransactionType drafts with
  | none => rw [lastOf_eq_none_iff.2 found, Option.or_none]
  | some draft => rfl

theorem documentFor_eq_none_iff {wanted : Text} {drafts : List ConfigDraft} :
    documentFor wanted drafts = none ↔ firstOf wanted drafts = none ∧ firstOf defaultTransactionType drafts = none := by
  rw [documentFor, Option.or_eq_none_iff, lastOf_eq_none_iff]

section
variable {drafts : List ConfigDraft} {draft : ConfigDraft} {asked : Option Text}

theorem select_eq_ok_iff : select drafts asked = .ok draft ↔ documentFor (wantedType asked) drafts = some draft := by
  rw [select, choose_eq, Option.or_none, ← documentFor]
  cases documentFor (wantedType asked) drafts with
  | none => exact iff_of_false nofun nofun
  | some other => rw [Except.ok.injEq, Option.some.injEq]

theorem select_eq_error_iff {fault : NoDocument} : select drafts asked = .error fault ↔
    documentFor (wantedType asked) drafts = none ∧
      fault = ⟨wantedType asked, drafts.map ConfigDraft.transactionType⟩ := by
  rw [select, choose_eq, Option.or_none, ← documentFor]
  cases documentFor (wantedType asked) drafts with
  | none => rw [Except.error.injEq, eq_comm, and_iff_right rfl]
  | some other => exact iff_of_false nofun fun h => nomatch h.1

end

theorem wantedType_some {type : Text} (named : type ≠ []) : wantedType (some type) = type :=
  if_neg (by simpa using named)

/-! ## Requests -/

/-- A request for a type gets the first document of the type. Without one it gets what a request for the default type
gets, and where that fails it fails with all the types that there are. -/
structure FallsBack (drafts : List ConfigDraft) (type : Text) : Prop where
  own : ∀ draft, firstOf type drafts = some draft → select drafts (some type) = .ok draft
  shared : firstOf type drafts = none →
    ∀ draft, select drafts (some type) = .ok draft ↔ select drafts (some defaultTransactionType) = .ok draft
  refused : firstOf type drafts = none →
    ((∃ fault, select drafts (some type) = .error fault) ↔
      ∃ fault, select drafts (some defaultTransactionType) = .error fault)
  listed : ∀ fault, select drafts (some type) = .error fault →
    fault.failure.cls = .configLoad ∧
      Entries.get? "available" fault.failure.details = some (textValues (drafts.map ConfigDraft.transactionType))

section
variable {drafts : List ConfigDraft} {type : Text}

theorem select_default_eq_ok_iff {draft : ConfigDraft} :
    select drafts (some defaultTransactionType) = .ok draft ↔ firstOf defaultTransactionType drafts = some draft := by
  rw [select_eq_ok_iff, wantedType_some (by decide), documentFor_default]

theorem exists_select_eq_error_iff {asked : Option Text} : (∃ fault, select drafts asked = .error fault) ↔
    firstOf (wantedType asked) drafts = none ∧ firstOf defaultTransactionType drafts = none := by
  simp only [select_eq_error_iff, exists_and_left, exists_eq, and_true, documentFor_eq_none_iff]

/-- Without a document of the type, a request for it gets the last one of the default type. -/
theorem select_of_firstOf_eq_none (named : type ≠ []) (none : firstOf type drafts = none) {draft : ConfigDraft} :
    select drafts (some type) = .ok draft ↔ lastOf defaultTransactionType drafts = some draft := by
  rw [select_eq_ok_iff, wantedType_some named, documentFor, none, Option.none_or]

theorem listed_of_select {fault : NoDocument} {asked : Option Text} (h : select drafts asked = .error fault) :
    fault.failure.cls = .configLoad ∧
      Entries.get? "available" fault.failure.details = some (textValues (drafts.map ConfigDraft.transactionType)) := by
  obtain ⟨-, rfl⟩ := select_eq_error_iff.1 h
  exact ⟨rfl, rfl⟩

theorem FallsBack.of_named (named : type ≠ [])
    (same : firstOf type drafts = none → firstOf defaultTransactionType drafts = lastOf defaultTransactionType drafts) :
    FallsBack drafts type where
  own draft found := by rw [select_eq_ok_iff, wantedType_some named, documentFor, found, Option.some_or]
  shared none draft := by rw [select_of_firstOf_eq_none named none, select_default_eq_ok_iff, same none]
  refused none := by
    rw [exists_select_eq_error_iff, exists_select_eq_error_iff, wantedType_some named, wantedType_some (by decide)]
    simp only [none, true_and, and_self]
  listed _ := listed_of_select

/-- The request for the empty type is the one for the default type. -/
theorem FallsBack.of_empty (none : ∀ draft ∈ drafts, draft.transactionType ≠ []) : FallsBack drafts [] where
  own draft found := by
    rw [firstOf_eq_none_iff.2 none] at found
    cases found
  shared _ _ := Iff.rfl
  refused _ := Iff.rfl
  listed _ := listed_of_select

end

/-- A request for a type falls back on what the default type gets, but for two kinds of documents: several of the
default type, of which the request for the default type gets the first and all others the last; and one whose type is
empty, which cannot be asked for. -/
theorem fallsBack_iff (drafts : List ConfigDraft) (type : Text) :
    (FallsBack drafts type ↔
      (type = [] → ∀ draft ∈ drafts, draft.transactionType ≠ []) ∧
      (type ≠ [] → firstOf type drafts = none →
        firstOf defaultTransactionType drafts = lastOf defaultTransactionType drafts)) ∧
    (∀ draft, select drafts (some defaultTransactionType) = .ok draft ↔
      firstOf defaultTransactionType drafts = some draft) ∧
    (type ≠ [] → firstOf type drafts = none → ∀ draft, select drafts (some type) = .ok draft ↔
      lastOf defaultTransactionType drafts = some draft) := by
  refine ⟨⟨fun falls => ⟨?_, ?_⟩, fun ⟨empty, same⟩ => ?_⟩, fun draft => select_default_eq_ok_iff,
    fun named none draft => select_of_firstOf_eq_none named none⟩
  · rintro rfl
    rw [← firstOf_eq_none_iff, Option.eq_none_iff_forall_ne_some]
    intro draft found
    -- What is chosen for the empty type is of the default type.
    have chosen := select_default_eq_ok_iff.1 (falls.own draft found)
    have empty := transactionType_of_firstOf found
    rw [transactionType_of_firstOf chosen] at empty
    exact absurd empty (by decide)
  · intro named none
    refine Option.ext fun draft => ?_
    rw [← select_default_eq_ok_iff, ← select_of_firstOf_eq_none named none]
    exact (falls.shared none draft).symm
  · by_cases named : type = []
    · rw [named]
      exact FallsBack.of_empty (empty named)
    · exact FallsBack.of_named named (same named)

/-- Two documents that name no type, and so are of the default type. -/
def twoDefaults : Text := "fileType: a\nfields: \x7b\x7d\n---\nfileType: b\nfields: \x7b\x7d\n"

/-- The request for a type that is not there gets the second document, and the one for the default type the first. -/
theorem fallsBack_twoDefaults : ∃ drafts, readText twoDefaults = .ok drafts ∧ ¬FallsBack drafts "credit" := by
  -- The documents are told apart by their jobs.
  have read : (readText twoDefaults).toOption.any (fun drafts => (firstOf "credit" drafts).isNone &&
      ((firstOf defaultTransactionType drafts).map ConfigDraft.jobName == some (some ['a']) &&
        (lastOf defaultTransactionType drafts).map ConfigDraft.jobName == some (some ['b']))) = true := by
    decide +kernel
  cases found : readText twoDefaults with
  | error fault =>
    rw [found] at read
    cases read
  | ok drafts =>
    rw [found] at read
    simp only [Except.toOption, Option.any_some, Bool.and_eq_true, Option.isNone_iff_eq_none, beq_iff_eq] at read
    obtain ⟨none, first, last⟩ := read
    obtain ⟨draft, chosen, -⟩ := Option.map_eq_some_iff.1 last
    refine ⟨drafts, rfl, fun falls => ?_⟩
    have again := (falls.shared none draft).1 ((select_of_firstOf_eq_none (by decide) none).2 chosen)
    rw [select_default_eq_ok_iff.1 again, ← chosen, last] at first
    exact absurd first (by decide)

end FixedExtract.Compiled
