import FixedExtract.Proofs.Yaml.Escape
import FixedExtract.Proofs.Yaml.Quoted
/-!
# Text between double quotes

Between double quotes every line end is escaped, so the gaps are runs of spaces, which are read as they are.
Every other character is read as the one that it was written for.
-/

namespace FixedExtract.Yaml

open Cursor

variable {c : Cursor} {text rest : Text} {ch : Char} {fuel : Nat}

theorem shows_escaped (space : ch ≠ ' ') : Shows true (escaped ch) ch := by
  cases plain : isUnescaped ch with
  | true =>
    have written : escaped ch = [ch] := by rw [escaped, if_pos plain]
    rw [written]
    by_cases quote : ch = '\x27'
    · exact shows_other (.inl ⟨rfl, quote⟩)
    · have visible : isBlankOrEnd ch = false :=
        visible_of_property (p := fun d => d != ' ' && isUnescaped d) (by simp [space, plain]) (by decide)
      have marks : ch ≠ '"' ∧ ch ≠ '\\' := by
        constructor <;> (rintro rfl; exact absurd plain (by decide))
      exact shows_ordinary (by simp [isOrdinary, quote, marks, visible])
  | false =>
    refine ⟨⟨'\\', (escaped ch).tail, escaped_eq_cons plain, by decide⟩, ?_⟩
    intro fuel c rest h
    rw [escaped_eq_cons plain] at h
    have read := readEscape_escaped (c := c.next) plain (rest_next_cons h)
    refine ⟨fuel, Nat.le_refl fuel, ?_⟩
    rw [quotedPiece_escape h read, escaped_eq_cons plain, List.length_cons]
    rfl

theorem flatMap_escaped_spaces (count : Nat) : (spaces count).flatMap escaped = spaces count := by
  induction count with
  | zero => rfl
  | succ count ih =>
    rw [spaces, List.replicate_succ, List.flatMap_cons]
    exact congrArg (' ' :: ·) ih

theorem endsPiece_double {more : Text} (blank : ∀ ch ∈ more.head?, ch = ' ') (ch : Char) (tail : Text)
    (front : more.flatMap escaped ++ '"' :: rest = ch :: tail) : EndsPiece true ch tail := by
  cases more with
  | nil =>
    cases front
    exact .inr (.inl ⟨rfl, rfl⟩)
  | cons space more =>
    obtain rfl := blank space rfl
    cases front
    exact .inl (by decide)

/-- What stands between double quotes is read from a space on, or from the closing quote. -/
theorem readQuotedAfter_double (blank : ∀ ch ∈ text.head?, ch = ' ')
    (h : c.rest = text.flatMap escaped ++ '"' :: rest) (enough : text.length < fuel) :
    readQuotedAfter '"' fuel c = .ok (text, c.skip ((text.flatMap escaped).length + 1)) := by
  induction fuel generalizing text c with
  | zero => omega
  | succ fuel ih =>
    by_cases empty : text = []
    · subst empty
      exact readQuotedAfter_close h
    obtain ⟨gap, word, more, rfl, gapNonEmpty, gapAll, wordAll, moreHead, alone⟩ :=
      exists_gap_word (p := (· = ' ')) empty
        (fun ch hc => by simpa using blank ch hc) (fun _ _ _ _ _ last => last)
    have gapSpaces : ∀ ch ∈ gap, ch = ' ' := fun ch hc => by simpa using gapAll ch hc
    have gapWritten : gap.flatMap escaped = gap := by
      rw [eq_spaces gapSpaces, flatMap_escaped_spaces]
    have shows : ∀ ch ∈ word, Shows true (escaped ch) ch :=
      fun ch hc => shows_escaped (by simpa using wordAll ch hc)
    rw [List.flatMap_append, List.flatMap_append, gapWritten] at h
    rw [List.flatMap_append, List.flatMap_append, gapWritten, List.length_append, List.length_append]
    rw [List.append_assoc, List.append_assoc] at h
    have moreBlank : ∀ ch ∈ more.head?, ch = ' ' := fun ch hc => by simpa using moreHead ch hc
    have moreRest : (c.skip (gap.length + (word.flatMap escaped).length)).rest =
        more.flatMap escaped ++ '"' :: rest := by
      rw [skip_add]
      exact rest_skip_append (rest_skip_append h)
    have moreRead := ih moreBlank moreRest
      (by rw [List.length_append, List.length_append] at enough
          have := List.length_pos_of_ne_nil gapNonEmpty
          omega)
    rw [← List.append_assoc, ← Nat.add_assoc, Nat.add_assoc, skip_add]
    refine readQuotedAfter_gap h (showsGap_spaces gapNonEmpty gapSpaces) shows (by decide) ?_
      (endsPiece_double moreBlank) moreRead
    intro empty
    rw [alone empty]
    rfl

/-- A text between double quotes is read again. -/
theorem readQuoted_writeDouble (h : c.rest = writeDouble text ++ rest) :
    readQuoted c = .ok (text, c.skip (writeDouble text).length) := by
  obtain ⟨word, more, rfl, wordAll, moreHead⟩ := exists_run (fun ch => !decide (ch = ' ')) text
  have blank : ∀ ch ∈ more.head?, ch = ' ' := fun ch hc => by simpa using moreHead ch hc
  have shows : ∀ ch ∈ word, Shows true (escaped ch) ch :=
    fun ch hc => shows_escaped (by simpa using wordAll ch hc)
  have escapedMore : more.length ≤ (more.flatMap escaped).length :=
    length_le_flatMap fun ch _ => escaped_ne_nil ch
  simp only [writeDouble, List.flatMap_append, List.cons_append, List.append_assoc, List.nil_append] at h
  have moreRest : (c.skip ((word.flatMap escaped).length + 1)).rest = more.flatMap escaped ++ '"' :: rest :=
    rest_skip_append (c := c.next) (rest_next_cons h)
  have enough : more.length < c.rest.length := by
    rw [h]
    simp only [List.length_cons, List.length_append]
    omega
  have moreRead := readQuotedAfter_double blank moreRest enough
  rw [← skip_add] at moreRead
  have length : (writeDouble (word ++ more)).length =
      (word.flatMap escaped).length + 1 + ((more.flatMap escaped).length + 1) := by
    simp only [writeDouble, List.flatMap_append, List.length_cons, List.length_append, List.length_nil]
    omega
  rw [readQuoted_word h shows (endsPiece_double blank) moreRead, length]

end FixedExtract.Yaml
