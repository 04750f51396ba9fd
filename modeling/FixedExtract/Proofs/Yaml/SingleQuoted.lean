import FixedExtract.Proofs.Yaml.Quoted
import Mathlib.Data.List.Chain
/-!
# Text between single quotes

A gap between single quotes is a run of spaces or a run of line ends, never both. The run of line ends is
read as it was before it was written, since the reader folds the line feed that the writer adds, and skips
the indentation of the next line.
-/

namespace FixedExtract.Yaml

open Cursor

variable {c : Cursor} {text rest : Text} {ch : Char} {fuel : Nat}

/-! ## Gaps of line ends -/

/-- White space between single quotes. -/
def isGap (ch : Char) : Bool := ch = ' ' || isWrittenBreak ch

theorem isWrittenBreak_of_noGap (noGap : ∀ ch ∈ text, isGap ch = false) :
    ∀ ch ∈ text, isWrittenBreak ch = false := by
  intro ch hc
  have := noGap ch hc
  rw [isGap, Bool.or_eq_false_iff] at this
  exact this.2

/-- A character between single quotes. -/
def singleQuoted (ch : Char) : Text := if ch = '\x27' then ['\x27', '\x27'] else [ch]

/-- A run of line ends as it is written. -/
def writtenBreaks (run : Text) : Text := (if run.head? = some '\n' then ['\n'] else []) ++ run

section
variable {indent : Nat} {run more : Text}

theorem writeSingleFrom_word (flat : ∀ ch ∈ text, isWrittenBreak ch = false) (more : Text) :
    writeSingleFrom indent false (text ++ more) =
      text.flatMap singleQuoted ++ writeSingleFrom indent false more := by
  induction text with
  | nil => rfl
  | cons ch text ih =>
    have noBreak := flat ch List.mem_cons_self
    have noFeed : ch ≠ '\n' := by
      rintro rfl
      cases noBreak
    rw [List.cons_append, writeSingleFrom, noBreak, ih fun d hd => flat d (List.mem_cons_of_mem ch hd),
      List.flatMap_cons, singleQuoted]
    simp [noFeed]

/-- Behind a run of line ends the line is indented. -/
theorem writeSingleFrom_line (flat : ∀ ch ∈ more.head?, isWrittenBreak ch = false) :
    writeSingleFrom indent true more = spaces indent ++ writeSingleFrom indent false more := by
  cases more with
  | nil => exact (List.append_nil (spaces indent)).symm
  | cons ch more =>
    have noBreak := flat ch rfl
    have noFeed : ch ≠ '\n' := by
      rintro rfl
      cases noBreak
    simp [writeSingleFrom, noBreak, noFeed]

theorem writeSingleFrom_breaks (breaks : ∀ ch ∈ run, isWrittenBreak ch = true) (more : Text) :
    writeSingleFrom indent true (run ++ more) = run ++ writeSingleFrom indent true more := by
  induction run with
  | nil => rfl
  | cons ch run ih =>
    have isBreak := breaks ch List.mem_cons_self
    have noQuote : ch ≠ '\x27' := by
      rintro rfl
      cases isBreak
    rw [List.cons_append, writeSingleFrom, isBreak, ih fun d hd => breaks d (List.mem_cons_of_mem ch hd)]
    simp [noQuote]

theorem writeSingleFrom_run (nonEmpty : run ≠ []) (breaks : ∀ ch ∈ run, isWrittenBreak ch = true)
    (more : Text) :
    writeSingleFrom indent false (run ++ more) = writtenBreaks run ++ writeSingleFrom indent true more := by
  obtain ⟨ch, run, rfl⟩ := List.exists_cons_of_ne_nil nonEmpty
  have isBreak := breaks ch List.mem_cons_self
  have noQuote : ch ≠ '\x27' := by
    rintro rfl
    cases isBreak
  have tail : writeSingleFrom indent true (run ++ more) = run ++ writeSingleFrom indent true more :=
    writeSingleFrom_breaks (fun d hd => breaks d (List.mem_cons_of_mem ch hd)) more
  rw [List.cons_append, writeSingleFrom, isBreak, tail, writtenBreaks]
  simp [noQuote]

/-- Neither a line end nor the indentation of a line divides documents. -/
theorem atDocumentMark_breaks (kept : ∀ ch ∈ run, IsKeptBreak ch) (indented : 0 < indent)
    (h : c.rest = run ++ (spaces indent ++ rest)) : c.atDocumentMark = false := by
  refine atDocumentMark_eq_false ?_
  intro d hd
  rw [h] at hd
  cases run with
  | nil =>
    obtain ⟨indent, rfl⟩ := Nat.exists_eq_succ_of_ne_zero (Nat.ne_of_gt indented)
    cases hd
    decide
  | cons first run =>
    cases hd
    rcases kept d List.mem_cons_self with rfl | rfl | rfl <;> decide

theorem length_le_writeSingleFrom (inBreaks : Bool) (text : Text) :
    text.length ≤ (writeSingleFrom indent inBreaks text).length := by
  induction text generalizing inBreaks with
  | nil => exact Nat.zero_le _
  | cons ch text ih =>
    have tail := ih (isWrittenBreak ch)
    have written : 1 ≤ (if ch = '\x27' then ['\x27', '\x27'] else [ch] : Text).length := by
      split <;> simp
    rw [writeSingleFrom]
    simp only [List.length_append, List.length_cons]
    omega

/-- The line ends of a run are read up to the indentation of the next line. -/
theorem quotedBreaks_kept (kept : ∀ ch ∈ run, IsKeptBreak ch) (indented : 0 < indent)
    (h : c.rest = run ++ (spaces indent ++ ch :: rest)) (visible : isBlankOrEnd ch = false)
    (enough : run.length < fuel) :
    quotedBreaks fuel c = .ok (run, c.skip (run.length + indent)) := by
  induction run generalizing c fuel with
  | nil =>
    obtain ⟨fuel, rfl⟩ := Nat.exists_eq_succ_of_ne_zero (by omega : fuel ≠ 0)
    have noMark := atDocumentMark_breaks kept indented h
    obtain ⟨blanks, after⟩ := skipWhile_spaces h visible
    have noBreak : isBreak (c.skip indent).here = false := by
      rw [here_of_rest after]
      exact (visible_iff.1 visible).1
    have length : (spaces indent).length = indent := List.length_replicate
    simp only [quotedBreaks, noMark, skipWhile, blanks, length, lineBreak?_eq_none noBreak,
      List.length_nil, Nat.zero_add]
    rfl
  | cons first run ih =>
    obtain ⟨fuel, rfl⟩ := Nat.exists_eq_succ_of_ne_zero (by omega : fuel ≠ 0)
    have noMark := atDocumentMark_breaks kept indented h
    have firstKept := kept first List.mem_cons_self
    have noBlanks : (c.skipWhile fun ch => ch = ' ' || ch = '\t') = c := by
      refine skipWhile_eq_self ?_
      intro d hd
      rw [h] at hd
      cases hd
      rcases firstKept with rfl | rfl | rfl <;> decide
    have tail := ih (fun d hd => kept d (List.mem_cons_of_mem first hd)) (rest_next_cons h)
      (Nat.lt_of_succ_lt_succ enough)
    simp only [quotedBreaks, noMark, noBlanks, lineBreak?_of_kept h firstKept, tail]
    rw [List.length_cons, Nat.add_right_comm]
    rfl

theorem quotedGap_lines (first : IsKeptBreak ch) (kept : ∀ ch ∈ run, IsKeptBreak ch)
    (indented : 0 < indent) {d : Char} (h : c.rest = ch :: (run ++ (spaces indent ++ d :: rest)))
    (visible : isBlankOrEnd d = false) :
    quotedGap c = .ok (folded ch run, c.skip (run.length + indent + 1)) := by
  have noBlanks : c.run (fun ch => ch = ' ' || ch = '\t') = [] := by
    refine run_eq_nil ?_
    intro d hd
    rw [h] at hd
    cases hd
    rcases first with rfl | rfl | rfl <;> decide
  have after := rest_next_cons h
  have enough : run.length < c.next.rest.length := by
    rw [after, List.length_append, List.length_append, List.length_cons]
    omega
  have read := quotedBreaks_kept kept indented after visible enough
  simp only [quotedGap, noBlanks, List.length_nil, skip, h, List.isEmpty_cons,
    lineBreak?_of_kept h first, read]
  rfl

/-- The line ends of a run are read as they were before they were written. -/
theorem quotedGap_breaks (nonEmpty : run ≠ []) (kept : ∀ ch ∈ run, IsKeptBreak ch)
    (indented : 0 < indent) (h : c.rest = writtenBreaks run ++ spaces indent ++ ch :: rest)
    (visible : isBlankOrEnd ch = false) :
    quotedGap c = .ok (run, c.skip (writtenBreaks run ++ spaces indent).length) := by
  obtain ⟨first, tail, rfl⟩ := List.exists_cons_of_ne_nil nonEmpty
  have firstKept := kept first List.mem_cons_self
  have tailKept : ∀ d ∈ tail, IsKeptBreak d := fun d hd => kept d (List.mem_cons_of_mem first hd)
  rw [List.append_assoc] at h
  rw [List.length_append, spaces, List.length_replicate]
  unfold writtenBreaks at h ⊢
  by_cases feed : first = '\n'
  · -- The line feed in front does not count, since others follow.
    subst feed
    rw [quotedGap_lines (.inl rfl) kept indented h visible]
    simp [folded, Nat.add_right_comm]
  · have plain : (first :: tail).head? ≠ some '\n' := by simpa using feed
    rw [if_neg plain, List.nil_append] at h ⊢
    rw [quotedGap_lines firstKept tailKept indented h visible]
    simp [folded, feed, Nat.add_right_comm]

theorem showsGap_breaks (indented : 0 < indent) (nonEmpty : run ≠ []) (kept : ∀ ch ∈ run, IsKeptBreak ch) :
    ShowsGap (writtenBreaks run ++ spaces indent) run where
  head := by
    obtain ⟨ch, tail, rfl⟩ := List.exists_cons_of_ne_nil nonEmpty
    unfold writtenBreaks
    by_cases feed : ch = '\n'
    · subst feed
      exact ⟨'\n', _, rfl, by decide⟩
    · have plain : (ch :: tail).head? ≠ some '\n' := by simpa using feed
      rw [if_neg plain]
      refine ⟨ch, _, rfl, ?_⟩
      rcases kept ch List.mem_cons_self with rfl | rfl | rfl <;> decide
  reads := fun _ _ _ h visible => quotedGap_breaks nonEmpty kept indented h visible

end

/-! ## Single quotes -/

/-- A text that single quotes can show: its characters are shown as they are, its line ends are read as they
are written, and none of them stands beside a space. -/
structure SingleQuotable (text : Text) : Prop where
  shown : ∀ ch ∈ text, isShown ch = true
  kept : '\u0085' ∉ text
  apart : text.IsChain fun c d => ¬(c = ' ' ∧ isWrittenBreak d = true) ∧
    ¬(isWrittenBreak c = true ∧ d = ' ')

namespace SingleQuotable

variable {front back : Text}

theorem right (h : SingleQuotable (front ++ back)) : SingleQuotable back where
  shown := fun ch hc => h.shown ch (List.mem_append_right front hc)
  kept := fun hc => h.kept (List.mem_append_right front hc)
  apart := (List.isChain_append.1 h.apart).2.1

theorem isKeptBreak (h : SingleQuotable text) (member : ch ∈ text) (isBreak : isWrittenBreak ch = true) :
    IsKeptBreak ch := by
  have other : ch ≠ '\u0085' := by
    rintro rfl
    exact h.kept member
  simpa [isWrittenBreak, IsKeptBreak, other, or_assoc] using isBreak

/-- What is shown and no gap is no white space. -/
theorem visible (h : SingleQuotable text) (member : ch ∈ text) (noGap : isGap ch = false) :
    isBlankOrEnd ch = false :=
  visible_of_property (p := fun d => !isGap d && isShown d) (by simp [noGap, h.shown ch member]) (by decide)

theorem shows (h : SingleQuotable text) (member : ch ∈ text) (noGap : isGap ch = false) :
    Shows false (singleQuoted ch) ch := by
  unfold singleQuoted
  by_cases quote : ch = '\x27'
  · subst quote
    refine ⟨⟨'\x27', ['\x27'], rfl, by decide⟩, ?_⟩
    exact fun fuel c rest hr => ⟨fuel, Nat.le_refl fuel, quotedPiece_quoteTwice hr⟩
  · rw [if_neg quote]
    by_cases mark : ch = '"' ∨ ch = '\\'
    · exact shows_other (.inr ⟨rfl, mark⟩)
    · rw [not_or] at mark
      exact shows_ordinary (by simp [isOrdinary, quote, mark, h.visible member noGap])

/-- A run of spaces or of line ends is followed by neither. -/
theorem head_after_gap (h : SingleQuotable (front ++ back)) (nonEmpty : front ≠ [])
    (same : (∀ ch ∈ front, ch = ' ') ∧ (∀ ch ∈ back.head?, ch ≠ ' ') ∨
      (∀ ch ∈ front, isWrittenBreak ch = true) ∧ ∀ ch ∈ back.head?, isWrittenBreak ch = false) :
    ∀ ch ∈ back.head?, isGap ch = false := by
  intro ch hc
  have beside := (List.isChain_append.1 h.apart).2.2 (front.getLast nonEmpty)
    (List.getLast?_eq_some_getLast nonEmpty) ch hc
  have last := List.getLast_mem nonEmpty
  rcases same with ⟨spaces, other⟩ | ⟨breaks, other⟩
  · have noBreak : isWrittenBreak ch = false := by
      rw [Bool.eq_false_iff]
      exact fun isBreak => beside.1 ⟨spaces _ last, isBreak⟩
    simp [isGap, noBreak, other ch hc]
  · have noSpace : ch ≠ ' ' := fun space => beside.2 ⟨breaks _ last, space⟩
    simp [isGap, noSpace, other ch hc]

end SingleQuotable

section
variable {indent : Nat}

/-- A run at the front of a text, the word behind it, and how the three parts are written. -/
theorem exists_single_gap (indented : 0 < indent) (quotable : SingleQuotable text)
    (nonEmpty : text ≠ []) (starts : ∀ ch ∈ text.head?, isGap ch = true) :
    ∃ gap gapWritten word more, text = gap ++ (word ++ more) ∧ gap ≠ [] ∧
      (∀ ch ∈ word, isGap ch = false) ∧ (∀ ch ∈ more.head?, isGap ch = true) ∧
      (word = [] → more = []) ∧
      writeSingleFrom indent false text =
        gapWritten ++ (word.flatMap singleQuoted ++ writeSingleFrom indent false more) ∧
      ShowsGap gapWritten gap := by
  obtain ⟨first, text, rfl⟩ := List.exists_cons_of_ne_nil nonEmpty
  by_cases space : first = ' '
  · -- The gap consists of spaces, which are written as they are.
    obtain ⟨gap, word, more, parts, gapNonEmpty, gapAll, wordAll, moreHead, alone⟩ :=
      exists_gap_word (p := (· = ' ')) nonEmpty (by simp [space]) (by
        intro gap tail same hn all head
        rw [same] at quotable
        refine quotable.head_after_gap hn (.inl ⟨?_, ?_⟩)
        · exact fun ch hc => by simpa using all ch hc
        · exact fun ch hc => by simpa using head ch hc)
    have gapSpaces : ∀ ch ∈ gap, ch = ' ' := fun ch hc => by simpa using gapAll ch hc
    refine ⟨gap, gap, word, more, parts, gapNonEmpty, wordAll, moreHead, alone, ?_,
      showsGap_spaces gapNonEmpty gapSpaces⟩
    have spacesFlat : ∀ ch ∈ gap, isWrittenBreak ch = false := by
      intro ch hc
      rw [gapSpaces ch hc]
      decide
    have written : gap.flatMap singleQuoted = gap := by
      rw [eq_spaces gapSpaces, spaces, List.flatMap_replicate]
      exact List.flatten_replicate_singleton
    rw [parts, writeSingleFrom_word spacesFlat, written, writeSingleFrom_word (isWrittenBreak_of_noGap wordAll)]
  · -- The gap consists of line ends, behind which the next line is indented.
    have firstBreak : isWrittenBreak first = true := by
      have := starts first rfl
      simpa [isGap, space] using this
    obtain ⟨gap, word, more, parts, gapNonEmpty, gapAll, wordAll, moreHead, alone⟩ :=
      exists_gap_word (p := isWrittenBreak) nonEmpty
        (by rintro ch ⟨⟩; exact firstBreak) (by
          intro gap tail same hn all head
          rw [same] at quotable
          exact quotable.head_after_gap hn (.inr ⟨all, head⟩))
    have keptBreaks : ∀ ch ∈ gap, IsKeptBreak ch := by
      intro ch hc
      refine quotable.isKeptBreak ?_ (gapAll ch hc)
      rw [parts]
      exact List.mem_append_left _ hc
    refine ⟨gap, writtenBreaks gap ++ spaces indent, word, more, parts, gapNonEmpty, wordAll, moreHead,
      alone, ?_, showsGap_breaks indented gapNonEmpty keptBreaks⟩
    have lineFlat : ∀ ch ∈ (word ++ more).head?, isWrittenBreak ch = false := by
      cases word with
      | nil =>
        rw [alone rfl]
        simp
      | cons ch word =>
        intro d hd
        cases hd
        exact isWrittenBreak_of_noGap wordAll ch List.mem_cons_self
    rw [parts, writeSingleFrom_run gapNonEmpty gapAll, writeSingleFrom_line lineFlat,
      writeSingleFrom_word (isWrittenBreak_of_noGap wordAll), List.append_assoc]

/-- A word is followed by a gap or by the closing quote. -/
theorem endsPiece_single (indented : 0 < indent) (closes : rest.headD endMark ≠ '\x27')
    (quotable : SingleQuotable text) (starts : ∀ ch ∈ text.head?, isGap ch = true) (ch : Char)
    (tail : Text) (front : writeSingleFrom indent false text ++ '\x27' :: rest = ch :: tail) :
    EndsPiece false ch tail := by
  by_cases empty : text = []
  · subst empty
    cases front
    exact .inr (.inr ⟨rfl, rfl, closes⟩)
  · obtain ⟨_, _, _, _, -, -, -, -, -, written, showsGap⟩ :=
      exists_single_gap indented quotable empty starts
    obtain ⟨first, behind, rfl, blank⟩ := showsGap.head
    rw [written] at front
    cases front
    exact .inl blank

/-- What stands between single quotes is read from a gap on, or from the closing quote. -/
theorem readQuotedAfter_single (indented : 0 < indent) (closes : rest.headD endMark ≠ '\x27')
    (quotable : SingleQuotable text) (starts : ∀ ch ∈ text.head?, isGap ch = true)
    (h : c.rest = writeSingleFrom indent false text ++ '\x27' :: rest) (enough : text.length < fuel) :
    readQuotedAfter '\x27' fuel c =
      .ok (text, c.skip ((writeSingleFrom indent false text).length + 1)) := by
  induction fuel generalizing text c with
  | zero => omega
  | succ fuel ih =>
    by_cases empty : text = []
    · subst empty
      exact readQuotedAfter_close h
    obtain ⟨gap, gapWritten, word, more, rfl, gapNonEmpty, wordAll, moreHead, alone, written, showsGap⟩ :=
      exists_single_gap indented quotable empty starts
    have shows : ∀ ch ∈ word, Shows false (singleQuoted ch) ch := fun ch hc =>
      quotable.shows (List.mem_append_right gap (List.mem_append_left more hc)) (wordAll ch hc)
    have moreQuotable : SingleQuotable more := quotable.right.right
    rw [written, List.append_assoc, List.append_assoc] at h
    have moreRest : (c.skip (gapWritten.length + (word.flatMap singleQuoted).length)).rest =
        writeSingleFrom indent false more ++ '\x27' :: rest := by
      rw [skip_add]
      exact rest_skip_append (rest_skip_append h)
    have shorter : more.length < fuel := by
      have := List.length_pos_of_ne_nil gapNonEmpty
      rw [List.length_append, List.length_append] at enough
      omega
    have moreRead := ih moreQuotable moreHead moreRest shorter
    rw [written, ← List.append_assoc, List.length_append, List.length_append, ← Nat.add_assoc,
      Nat.add_assoc (gapWritten.length + _), skip_add]
    refine readQuotedAfter_gap h showsGap shows (by decide) ?_
      (endsPiece_single indented closes moreQuotable moreHead) moreRead
    intro noWord
    rw [alone noWord]
    rfl

/-- A text between single quotes is read again. -/
theorem readQuoted_writeSingle (indented : 0 < indent) (closes : rest.headD endMark ≠ '\x27')
    (quotable : SingleQuotable text) (h : c.rest = writeSingle indent text ++ rest) :
    readQuoted c = .ok (text, c.skip (writeSingle indent text).length) := by
  obtain ⟨word, more, rfl, wordAll, moreHead⟩ := exists_run (fun ch => !isGap ch) text
  have noGap : ∀ ch ∈ word, isGap ch = false := fun ch hc => by simpa using wordAll ch hc
  have starts : ∀ ch ∈ more.head?, isGap ch = true := fun ch hc => by simpa using moreHead ch hc
  have flat := isWrittenBreak_of_noGap noGap
  have shows : ∀ ch ∈ word, Shows false (singleQuoted ch) ch := fun ch hc =>
    quotable.shows (List.mem_append_left more hc) (noGap ch hc)
  have length : (writeSingle indent (word ++ more)).length =
      (word.flatMap singleQuoted).length + 1 + ((writeSingleFrom indent false more).length + 1) := by
    simp only [writeSingle, writeSingleFrom_word flat, List.length_cons, List.length_append,
      List.length_nil]
    omega
  simp only [writeSingle, writeSingleFrom_word flat, List.cons_append, List.append_assoc,
    List.nil_append] at h
  have moreRest : (c.skip ((word.flatMap singleQuoted).length + 1)).rest =
      writeSingleFrom indent false more ++ '\x27' :: rest :=
    rest_skip_append (c := c.next) (rest_next_cons h)
  have enough : more.length < c.rest.length := by
    have written : more.length ≤ (writeSingleFrom indent false more).length := length_le_writeSingleFrom false more
    rw [h]
    simp only [List.length_cons, List.length_append]
    omega
  have moreRead := readQuotedAfter_single indented closes quotable.right starts moreRest enough
  rw [← skip_add] at moreRead
  rw [readQuoted_word h shows (endsPiece_single indented closes quotable.right starts) moreRead, length]

end

end FixedExtract.Yaml
