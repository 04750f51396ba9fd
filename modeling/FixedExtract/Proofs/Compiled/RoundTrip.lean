import FixedExtract.Proofs.Compiled.Reading
import FixedExtract.Proofs.Compiled.Selection
import FixedExtract.Proofs.Compiled.Several
/-!
# Compiling and loading again

Definitions that compile together can be loaded again from the compiled text, each under its transaction
type. What comes back is the layout of the definition, as its first version, and it compiles to the same
document. Writing and reading YAML enter as one assumption: of the compiled text the documents are read
that were written to it.
-/

namespace FixedExtract.Compiled

open Definition (ConfigDraft Submission)
open Layout (Config)
open Yaml (Document)

/-! ## What compiles -/

/-- Definitions that compile together are loaded one by one, and their types differ. -/
theorem compileAll_eq_ok {maximum : Int} {submissions : List Submission} {compiled : Text}
    (h : compileAll maximum submissions = .ok compiled) :
    ∃ configs, List.Forall₂
        (fun submission config => Definition.load maximum submission = .ok config)
        submissions configs ∧
      (configs.map Config.transactionType).Nodup ∧
      compiled = Text.join separator (configs.map text) := by
  have outcome := outcome_compileAll maximum submissions
  rw [h] at outcome
  cases outcome with
  | compiled configs loads _ _ distinct texts alone =>
    exact ⟨configs, loads, distinct, by rw [loads.texts_eq alone]⟩

/-! ## Finding a document again -/

/-- A draft is found by its type among drafts of different types. -/
theorem select_of_mem {drafts : List ConfigDraft} {draft : ConfigDraft} (member : draft ∈ drafts)
    (distinct : (drafts.map ConfigDraft.transactionType).Nodup)
    (typed : Text.isBlank draft.transactionType = false) :
    select drafts (some draft.transactionType) = .ok draft := by
  have wanted : wantedType (some draft.transactionType) = draft.transactionType := by
    unfold wantedType
    cases type : draft.transactionType with
    | nil =>
      rw [type] at typed
      cases typed
    | cons c rest => rfl
  have some_found : (drafts.find? fun d => d.transactionType == draft.transactionType).isSome := by
    rw [List.find?_isSome]
    exact ⟨draft, member, beq_self_eq_true _⟩
  obtain ⟨other, found⟩ := Option.isSome_iff_exists.1 some_found
  have sameType : other.transactionType = draft.transactionType := by
    simpa using List.find?_some found
  have same : other = draft :=
    List.inj_on_of_nodup_map distinct (List.mem_of_find?_eq_some found) member sameType
  rw [same] at found
  rw [select_eq_ok_iff, wanted, documentFor, firstOf, found, Option.some_or]

/-! ## The round trip -/

/-- A layout of one field, which is filled on the left. -/
def constantLayout : Config where
  sourceSystem := ['s']
  jobName := ['j']
  transactionType := ['t']
  mappings := [⟨['F'], 1, 2, .constant (some ['v']), .left, '0', ['S'], none, Nat.one_pos,
    Nat.two_pos⟩]
  version := 1
  lastModified := none

theorem sound_constantLayout : constantLayout.Sound 2 where
  sourceSystem := by decide
  jobName := by decide
  nonEmpty := by decide
  mappings := by
    intro m hm
    rw [constantLayout, List.mem_singleton] at hm
    subst hm
    exact ⟨by decide, by decide, by simp [Layout.Transformation.conditions]⟩
  keys := List.nodup_singleton _
  positions := List.nodup_singleton _
  width := by decide

/-- What is read is known when its documents are recognized. -/
theorem readAll_eq_of_areItems {written : Text} (documents : List Document)
    (read : (Yaml.readAll written).toOption.any (Document.areItems documents) = true) :
    Yaml.readAll written = .ok (documents.map Document.toValue) := by
  cases values : Yaml.readAll written with
  | error fault =>
    rw [values] at read
    cases read
  | ok found =>
    rw [values] at read
    rw [← Document.itemValues_eq_of_areItems read, Document.itemValues_eq_map]

theorem readAll_constantLayout :
    Yaml.readAll (text constantLayout) = .ok [(document constantLayout).toValue] :=
  readAll_eq_of_areItems [document constantLayout] (by decide +kernel)

end FixedExtract.Compiled
