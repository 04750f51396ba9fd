import FixedExtract.Proofs.Yaml.Escape
import FixedExtract.Proofs.Yaml.Number
import FixedExtract.Proofs.Yaml.Style
/-!
# The characters that are written

Only characters that can be shown are written, and a text that holds no line end is written on one line.
-/

namespace FixedExtract.Yaml

variable {text : Text} {ch : Char} {indent : Nat}

/-! ## Texts between quotes -/

theorem exists_of_mem_upperHex {width n : Nat} (h : ch ∈ upperHex width n) :
    ∃ digit < 16, ch = upperDigit digit := by
  obtain ⟨digits, numeral⟩ := Text.exists_isNumeral (by decide : 1 < 16) n
  obtain ⟨d, hd, rfl⟩ := List.mem_map.1 h
  rw [Text.hex, numeral.written] at hd
  rcases List.mem_append.1 hd with zero | hd
  · exact ⟨0, by decide, by rw [List.eq_of_mem_replicate zero]; rfl⟩
  · obtain ⟨digit, member, rfl⟩ := List.mem_map.1 hd
    exact ⟨digit, numeral.below digit member, rfl⟩

theorem flat_upperHex (width n : Nat) : Flat (upperHex width n) := by
  have table : ∀ digit < 16, isShown (upperDigit digit) = true ∧
      isWrittenBreak (upperDigit digit) = false := by
    decide
  intro ch hc
  obtain ⟨digit, below, rfl⟩ := exists_of_mem_upperHex hc
  exact table digit below

theorem flat_of_isUnescaped (h : isUnescaped ch = true) : Flat [ch] := by
  simp only [isUnescaped, Bool.and_eq_true, Bool.or_eq_true, decide_eq_true_eq] at h
  obtain ⟨⟨⟨⟨-, noLine⟩, noParagraph⟩, noMark⟩, range⟩ := h
  have noFeed : ch ≠ '\n' := by
    rintro rfl
    revert range
    decide
  have noNext : ch ≠ '\u0085' := by
    rintro rfl
    revert range
    decide
  refine List.forall_mem_singleton.2 ⟨?_, ?_⟩
  · have shown : isShown ch = (ch = '\n' || (32 ≤ ch.toNat && ch.toNat ≤ 126) || ch = '\u0085' ||
        ((160 ≤ ch.toNat && ch.toNat ≤ 0xd7ff) || (0xe000 ≤ ch.toNat && ch.toNat ≤ 0xfffd) ||
          (0x10000 ≤ ch.toNat && ch.toNat < 0x10ffff)) : Bool) := by
      simp [isShown, noMark]
    rw [shown]
    simp only [Bool.or_eq_true, Bool.and_eq_true, decide_eq_true_eq]
    rcases range with (ascii | low) | high
    · exact .inl (.inl (.inr ascii))
    · exact .inr (.inl (.inl low))
    · exact .inr (.inl (.inr high))
  · simp [isWrittenBreak, noFeed, noNext, noLine, noParagraph]

/-- Between double quotes no line ends. -/
theorem flat_escaped (ch : Char) : Flat (escaped ch) := by
  have letters : (escapeLetters.all fun pair => isShown pair.2 && !isWrittenBreak pair.2) = true := by
    decide +kernel
  have codes : ∀ letter width, isShown letter = true ∧ isWrittenBreak letter = false →
      Flat ('\\' :: letter :: upperHex width ch.toNat) := fun letter width flat =>
    List.forall_mem_cons.2 ⟨by decide, List.forall_mem_cons.2 ⟨flat, flat_upperHex width ch.toNat⟩⟩
  unfold escaped
  split
  · next plain => exact flat_of_isUnescaped plain
  · split
    · next letter known =>
      obtain ⟨before, after, pairs, -⟩ := List.lookup_eq_some_iff.1 known
      have member : (ch, letter) ∈ escapeLetters := by simp [pairs]
      have flat : isShown letter = true ∧ isWrittenBreak letter = false := by
        simpa using List.all_eq_true.1 letters (ch, letter) member
      exact List.forall_mem_cons.2 ⟨by decide, List.forall_mem_singleton.2 flat⟩
    · split
      · exact codes 'x' 2 (by decide)
      · split
        · exact codes 'u' 4 (by decide)
        · exact codes 'U' 8 (by decide)

theorem flat_writeDouble (text : Text) : Flat (writeDouble text) := by
  intro ch hc
  rw [writeDouble, List.cons_append, List.mem_cons, List.mem_append, List.mem_singleton] at hc
  rcases hc with rfl | inside | rfl
  · decide
  · obtain ⟨d, -, hd⟩ := List.mem_flatMap.1 inside
    exact flat_escaped d ch hd
  · decide

/-- Between single quotes stand the characters of the text, and more quotes, spaces and line feeds. -/
theorem mem_writeSingleFrom {inBreaks : Bool} (h : ch ∈ writeSingleFrom indent inBreaks text) :
    ch = ' ' ∨ ch = '\n' ∨ ch = '\x27' ∨ ch ∈ text := by
  induction text generalizing inBreaks with
  | nil =>
    rw [writeSingleFrom] at h
    split at h
    · exact .inl (List.eq_of_mem_replicate h)
    · cases h
  | cons d rest ih =>
    simp only [writeSingleFrom, List.mem_append] at h
    rcases h with ((space | feed) | written) | more
    · split at space
      · exact .inl (List.eq_of_mem_replicate space)
      · cases space
    · split at feed
      · exact .inr (.inl (List.mem_singleton.1 feed))
      · cases feed
    · split at written
      · simp at written
        exact .inr (.inr (.inl written))
      · exact .inr (.inr (.inr (by simp [List.mem_singleton.1 written])))
    · rcases ih more with space | feed | quote | member
      · exact .inl space
      · exact .inr (.inl feed)
      · exact .inr (.inr (.inl quote))
      · exact .inr (.inr (.inr (List.mem_cons_of_mem d member)))

/-! ## All written texts -/

/-- Only what can be shown is written. -/
theorem isShown_of_mem_writeText (h : ch ∈ writeText indent text) : isShown ch = true := by
  rw [writeText] at h
  cases style : styleOf text with
  | plain =>
    rw [style] at h
    exact ((isPlain_of_styleOf style).1.flat ch h).1
  | double =>
    rw [style] at h
    exact (flat_writeDouble text ch h).1
  | single =>
    rw [style] at h
    rcases styleOf_cases text with other | ⟨other, -⟩ | ⟨-, shown, -⟩
    · rw [style] at other
      cases other
    · rw [style] at other
      cases other
    · rw [writeSingle, List.cons_append, List.mem_cons, List.mem_append, List.mem_singleton] at h
      rcases h with rfl | inside | rfl
      · rfl
      · rcases mem_writeSingleFrom inside with rfl | rfl | rfl | member
        · rfl
        · rfl
        · rfl
        · exact List.all_eq_true.1 shown ch member
      · rfl

/-- Without line ends the indentation does not matter. -/
theorem writeSingleFrom_flat (flat : ∀ ch ∈ text, isWrittenBreak ch = false) (indent : Nat) :
    writeSingleFrom indent false text = text.flatMap singleQuoted := by
  have word : writeSingleFrom indent false (text ++ []) = _ := writeSingleFrom_word flat []
  rwa [List.append_nil, writeSingleFrom, if_neg (by decide), List.append_nil] at word

theorem writeText_eq_of_flat (flat : ∀ ch ∈ text, isWrittenBreak ch = false) (indent other : Nat) :
    writeText indent text = writeText other text := by
  rw [writeText, writeText, writeSingle, writeSingle, writeSingleFrom_flat flat, writeSingleFrom_flat flat]

/-- A text without line ends is written on one line. -/
theorem flat_writeText (flat : ∀ ch ∈ text, isWrittenBreak ch = false) : Flat (writeText indent text) := by
  intro ch hc
  refine ⟨isShown_of_mem_writeText hc, ?_⟩
  rw [writeText] at hc
  cases style : styleOf text with
  | plain =>
    rw [style] at hc
    exact flat ch hc
  | double =>
    rw [style] at hc
    exact (flat_writeDouble text ch hc).2
  | single =>
    simp only [style, writeSingle, writeSingleFrom_flat flat, List.cons_append, List.mem_cons,
      List.mem_append, List.not_mem_nil, or_false] at hc
    rcases hc with rfl | inside | rfl
    · rfl
    · obtain ⟨d, hd, member⟩ := List.mem_flatMap.1 inside
      unfold singleQuoted at member
      split at member
      · simp only [List.mem_cons, List.not_mem_nil, or_false, or_self] at member
        rw [member]
        rfl
      · rw [List.mem_singleton.1 member]
        exact flat d hd
    · rfl

/-! ## Documents -/

theorem isShown_ofInt (n : Int) : ∀ ch ∈ Text.ofInt n, isShown ch = true :=
  fun ch hc => ((isPlain_ofInt n).flat ch hc).1

theorem isShown_lineStart (fresh : Bool) : ∀ ch ∈ lineStart indent fresh, isShown ch = true := by
  cases fresh with
  | false => exact List.forall_mem_nil _
  | true => exact List.forall_mem_cons.2 ⟨rfl, fun ch hc => List.eq_of_mem_replicate hc ▸ rfl⟩

mutual

/-- Only what can be shown is written for a document. -/
theorem isShown_writeAfter (before : Before) (indent : Nat) (document : Document) :
    ∀ ch ∈ writeAfter before indent document, isShown ch = true := by
  have space : ∀ ch ∈ (if before = .key then [' '] else [] : Text), isShown ch = true := by
    split
    · exact List.forall_mem_singleton.2 rfl
    · exact List.forall_mem_nil _
  match document with
  | .text t =>
    rw [writeAfter]
    exact List.forall_mem_append.2 ⟨space, fun ch => isShown_of_mem_writeText⟩
  | .int n =>
    rw [writeAfter]
    exact List.forall_mem_append.2 ⟨space, isShown_ofInt n⟩
  | .list [] =>
    rw [writeAfter]
    exact List.forall_mem_append.2 ⟨space, List.forall_mem_cons.2 ⟨rfl, List.forall_mem_singleton.2 rfl⟩⟩
  | .map [] =>
    rw [writeAfter]
    exact List.forall_mem_append.2 ⟨space, List.forall_mem_cons.2 ⟨rfl, List.forall_mem_singleton.2 rfl⟩⟩
  | .list (item :: rest) =>
    rw [writeAfter]
    exact isShown_writeItems _ _ (item :: rest)
  | .map (entry :: rest) =>
    rw [writeAfter]
    exact isShown_writeEntries _ _ (entry :: rest)

theorem isShown_writeItems (indent : Nat) (fresh : Bool) (items : List Document) :
    ∀ ch ∈ writeItems indent fresh items, isShown ch = true := by
  match items with
  | [] => exact List.forall_mem_nil _
  | item :: rest =>
    have item := isShown_writeAfter .mark indent item
    have rest := isShown_writeItems indent true rest
    simp only [writeItems, List.forall_mem_append, List.forall_mem_cons]
    exact ⟨⟨isShown_lineStart fresh, rfl, rfl, item⟩, rest⟩

theorem isShown_writeEntries (indent : Nat) (fresh : Bool) (entries : List (Text × Document)) :
    ∀ ch ∈ writeEntries indent fresh entries, isShown ch = true := by
  match entries with
  | [] => exact List.forall_mem_nil _
  | (key, item) :: rest =>
    have simple := isShown_writeAfter .key indent item
    have long := isShown_writeAfter .mark indent item
    have rest := isShown_writeEntries indent true rest
    have written : ∀ ch ∈ writeText (indent + 2) key, isShown ch = true := fun ch => isShown_of_mem_writeText
    have indentation : ∀ ch ∈ spaces indent, isShown ch = true :=
      fun ch hc => List.eq_of_mem_replicate hc ▸ rfl
    rw [writeEntries]
    refine List.forall_mem_append.2 ⟨List.forall_mem_append.2 ⟨isShown_lineStart fresh, ?_⟩, rest⟩
    split
    · simp only [List.forall_mem_append, List.forall_mem_cons]
      exact ⟨written, rfl, simple⟩
    · simp only [List.forall_mem_append, List.forall_mem_cons]
      exact ⟨⟨⟨rfl, rfl, written⟩, rfl, indentation⟩, rfl, rfl, long⟩

end

/-- Only what can be shown is written. -/
theorem isShown_write (document : Document) : ∀ ch ∈ write document, isShown ch = true :=
  List.forall_mem_append.2 ⟨isShown_writeAfter .nothing 0 document, List.forall_mem_singleton.2 rfl⟩

end FixedExtract.Yaml
