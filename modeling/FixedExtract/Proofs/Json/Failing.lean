import FixedExtract.Json.Reader
import FixedExtract.Proofs.Computation
import Mathlib.Data.List.TakeWhile
/-!
# Why a document is not read

Besides its form there is one reason not to read a document: a number in it may have too many digits. What is left to
read is an end of the document at any time, so that the number does stand in it.
-/

namespace FixedExtract.Json

variable {α β : Type} {text rest : Text} {position fuel : Nat}

/-- Where a number has too many digits, they stand in the text. -/
def Justified (text : Text) (fault : Fault) : Prop :=
  ∀ digits, fault.cause = .tooManyDigits digits → maxDigits < digits ∧
    ∃ run, run <:+: text ∧ run.length = digits ∧ ∀ c ∈ run, Text.isAsciiDigit c = true

/-- Is it that a number has too many digits? -/
def Cause.isLong : Cause → Bool
  | .tooManyDigits _ => true
  | _ => false

theorem justified_of_isLong_eq_false {cause : Cause} (h : cause.isLong = false) : Justified text ⟨cause, position⟩ := by
  rintro digits same
  rw [show cause = .tooManyDigits digits from same] at h
  cases h

/-- A part of the reader fails for such reasons, and it leaves an end of the text. -/
structure Reads (text : Text) (x : Except Fault (α × Nat × Text)) : Prop where
  fails : FailsWith (Justified text) x
  leaves : ∀ a position rest, x = .ok (a, position, rest) → rest <:+ text

namespace Reads

theorem ok {a : α} (h : rest <:+ text) : Reads text (.ok (a, position, rest)) := by
  refine ⟨.ok _, ?_⟩
  rintro _ _ _ ⟨⟩
  exact h

theorem error {fault : Fault} (h : Justified text fault) : Reads text (.error fault : Except Fault (α × Nat × Text)) :=
  ⟨.error h, nofun⟩

theorem malformed {cause : Cause} (h : cause.isLong = false) :
    Reads text (.error ⟨cause, position⟩ : Except Fault (α × Nat × Text)) :=
  error (justified_of_isLong_eq_false h)

theorem bind {x : Except Fault (α × Nat × Text)} {f : α × Nat × Text → Except Fault (β × Nat × Text)}
    (hx : Reads text x) (hf : ∀ a position rest, rest <:+ text → Reads text (f (a, position, rest))) :
    Reads text (x >>= f) := by
  cases x with
  | error fault => exact error (hx.fails fault rfl)
  | ok part => exact hf part.1 part.2.1 part.2.2 (hx.leaves _ _ _ rfl)

theorem map {x : Except Fault (α × Nat × Text)} {f : α → β} (hx : Reads text x) :
    Reads text (x.map fun part => (f part.1, part.2)) := by
  cases x with
  | error fault => exact error (hx.fails fault rfl)
  | ok part => exact ok (hx.leaves _ _ _ rfl)

end Reads

theorem suffix_of_cons {c : Char} (h : c :: rest <:+ text) : rest <:+ text := (List.suffix_cons c rest).trans h

theorem suffix_skipBlanks (position : Nat) (h : rest <:+ text) : (skipBlanks position rest).2 <:+ text :=
  (List.dropWhile_suffix isBlank).trans h

/-! ## Strings and numbers -/

theorem reads_readString (start : Nat) (h : rest <:+ text) : Reads text (readString start fuel position rest) := by
  induction fuel generalizing position rest with
  | zero => exact .malformed rfl
  | succ fuel ih =>
    have consing (c : Char) (advance : Nat) {after : Text} (h' : after <:+ rest) :
        Reads text ((readString start fuel (position + advance) after).map fun part => (c :: part.1, part.2)) :=
      (ih (h'.trans h)).map
    unfold readString
    dsimp only
    split
    · exact .malformed rfl
    · exact .ok (suffix_of_cons h)
    · exact .malformed rfl
    · next digits =>
      have behind : digits <:+ '\\' :: 'u' :: digits := suffix_of_cons (List.suffix_cons _ _)
      have four : digits.drop 4 <:+ '\\' :: 'u' :: digits := (List.drop_suffix 4 digits).trans behind
      split
      · exact .malformed rfl
      · split
        · exact .malformed rfl
        · split
          · split
            · exact .malformed rfl
            · split
              · exact consing _ _ ((List.drop_suffix 6 _).trans four)
              · exact consing _ _ four
          · split
            · exact consing _ _ four
            · exact consing _ _ four
    · split
      · exact consing _ _ (suffix_of_cons (List.suffix_cons _ _))
      · exact .malformed rfl
    · split
      · exact .malformed rfl
      · exact consing _ _ (List.suffix_cons _ _)

theorem suffix_splitSign (h : rest <:+ text) : (splitSign rest).2 <:+ text := by
  unfold splitSign
  split
  · exact suffix_of_cons h
  · exact h

theorem suffix_splitFraction (h : rest <:+ text) : (splitFraction rest).2 <:+ text := by
  unfold splitFraction
  split
  · dsimp only
    split
    · exact h
    · exact (List.dropWhile_suffix _).trans (suffix_of_cons h)
  · exact h

theorem suffix_splitExponentSign (h : rest <:+ text) : (splitExponentSign rest).2 <:+ text := by
  unfold splitExponentSign
  split
  · exact suffix_of_cons h
  · exact suffix_splitSign h

theorem suffix_splitExponent? {negative : Bool} {digits after : Text} (h : rest <:+ text)
    (found : splitExponent? rest = some (negative, digits, after)) : after <:+ text := by
  unfold splitExponent? at found
  dsimp only at found
  split at found
  · split at found
    · split at found
      · cases found
      · cases found
        exact (List.dropWhile_suffix _).trans (suffix_splitExponentSign (suffix_of_cons h))
    · cases found
  · cases found

/-- The digits of an integer stand at the start of its text. -/
theorem wholeDigits_digits (text : Text) :
    wholeDigits text <+: text ∧ ∀ c ∈ wholeDigits text, Text.isAsciiDigit c = true := by
  unfold wholeDigits
  split
  · refine ⟨List.prefix_append ['0'] _, fun c hc => ?_⟩
    cases List.mem_singleton.1 hc
    rfl
  · exact ⟨List.takeWhile_prefix _, fun c hc => List.mem_takeWhile_imp hc⟩

theorem reads_readNumber (start : Nat) (h : rest <:+ text) : Reads text (readNumber start rest) := by
  have unsigned : (splitSign rest).2 <:+ text := suffix_splitSign h
  obtain ⟨first, digits⟩ := wholeDigits_digits (splitSign rest).2
  -- Only the integer part can be too long, and its digits stand where the sign ends.
  have tooMany (many : maxDigits < (wholeDigits (splitSign rest).2).length) :
      Justified text ⟨.tooManyDigits (wholeDigits (splitSign rest).2).length, start⟩ := by
    rintro _ ⟨⟩
    exact ⟨many, _, first.isInfix.trans unsigned.isInfix, rfl, digits⟩
  have behind := suffix_splitFraction ((List.drop_suffix (wholeDigits (splitSign rest).2).length _).trans unsigned)
  unfold readNumber
  dsimp only
  split
  · exact .malformed rfl
  · split
    · next found => exact .ok (suffix_splitExponent? behind found)
    · split
      · split
        · next many => exact .error (tooMany many)
        · exact .ok behind
      · exact .ok behind

theorem reads_readScalar (h : rest <:+ text) : Reads text (readScalar position rest) := by
  unfold readScalar
  split
  · exact .ok ((List.drop_suffix _ _).trans h)
  · exact reads_readNumber position h

/-! ## Values -/

/-- A value, the items of a list and the entries of an object are read so, as far as the fuel goes. -/
structure ReadsAll (text : Text) (fuel : Nat) : Prop where
  value : ∀ position rest, rest <:+ text → Reads text (readValue fuel position rest)
  items : ∀ position rest, rest <:+ text → Reads text (readItems fuel position rest)
  entries : ∀ position rest, rest <:+ text → Reads text (readEntries fuel position rest)

namespace ReadsAll

theorem readValue (all : ReadsAll text fuel) (h : rest <:+ text) : Reads text (readValue (fuel + 1) position rest) := by
  unfold Json.readValue
  split
  · exact (reads_readString _ (suffix_of_cons h)).map
  · have inside := suffix_skipBlanks (position + 1) (suffix_of_cons h)
    dsimp only
    split
    · next same => exact .ok (suffix_of_cons (same ▸ inside))
    · exact (all.items _ _ inside).map
  · have inside := suffix_skipBlanks (position + 1) (suffix_of_cons h)
    dsimp only
    split
    · next same => exact .ok (suffix_of_cons (same ▸ inside))
    · exact Reads.map (f := fun pairs => Value.map (Entries.ofPairs pairs)) (all.entries _ _ inside)
  · exact reads_readScalar h

theorem readItems (all : ReadsAll text fuel) (h : rest <:+ text) : Reads text (readItems (fuel + 1) position rest) := by
  unfold Json.readItems
  refine .bind (all.value _ _ h) fun item position rest behind => ?_
  have next := suffix_skipBlanks position behind
  dsimp only
  split
  · next same => exact .ok (suffix_of_cons (same ▸ next))
  · next same =>
    refine .bind (all.items _ _ (suffix_skipBlanks _ (suffix_of_cons (same ▸ next)))) fun items position rest last => ?_
    exact .ok last
  · exact .malformed rfl

theorem readEntries (all : ReadsAll text fuel) (h : rest <:+ text) :
    Reads text (readEntries (fuel + 1) position rest) := by
  unfold Json.readEntries
  extract_lets entry
  -- What follows a name is the same however the name was read.
  have entries (name : Text) (position : Nat) (rest : Text) (h : rest <:+ text) :
      Reads text (entry (name, position, rest)) := by
    have colon := suffix_skipBlanks position h
    unfold entry
    dsimp only
    split
    · next same =>
      have start := suffix_skipBlanks (skipBlanks position rest).1.succ (suffix_of_cons (same ▸ colon))
      refine .bind (all.value _ _ start) fun value position rest behind => ?_
      have next := suffix_skipBlanks position behind
      dsimp only
      split
      · next same => exact .ok (suffix_of_cons (same ▸ next))
      · next same =>
        refine .bind (all.entries _ _ (suffix_skipBlanks _ (suffix_of_cons (same ▸ next)))) fun _ _ _ last => ?_
        exact .ok last
      · exact .malformed rfl
    · exact .malformed rfl
  split
  · exact .bind (reads_readString position (suffix_of_cons h)) entries
  · exact .malformed rfl

end ReadsAll

theorem readsAll (text : Text) (fuel : Nat) : ReadsAll text fuel := by
  -- The three readers call each other with one less of the fuel, so they go together.
  induction fuel with
  | zero => exact ⟨fun _ _ _ => .error nofun, fun _ _ _ => .error nofun, fun _ _ _ => .error nofun⟩
  | succ fuel ih => exact ⟨fun _ _ h => ih.readValue h, fun _ _ h => ih.readItems h, fun _ _ h => ih.readEntries h⟩

/-- A document is not read because of its form, or because a number in it has too many digits. -/
theorem justified_of_read (text : Text) : FailsWith (Justified text) (read text) := by
  have start := suffix_skipBlanks 0 (List.suffix_refl text)
  have value := (readsAll text (2 * text.length + 2)).value (skipBlanks 0 text).1 _ start
  refine .ite (.error (justified_of_isLong_eq_false rfl)) ?_
  exact .bind value.fails fun _ => .ite (.ok _) (.error (justified_of_isLong_eq_false rfl))

end FixedExtract.Json
