import FixedExtract.Proofs.Traversal
import FixedExtract.Proofs.Yaml.Cursor
import FixedExtract.Yaml.Scalar.Quoted
import FixedExtract.Yaml.Writer
/-!
# Reading quoted text

A quoted text is read in words, which hold no white space, and the gaps between them. A word is read one
character at a time, whatever the character is written as; what is left is to say what is written for a
character and for a gap.
-/

namespace FixedExtract.Yaml

open Cursor

variable {c : Cursor} {rest : Text} {ch : Char} {double : Bool} {fuel : Nat}

/-! ## Pieces -/

/-- What was read goes on with a character in front of it. -/
def behind (ch : Char) (read : Text × Cursor) : Text × Cursor := (ch :: read.1, read.2)

theorem quotedPiece_ordinary (h : c.rest = ch :: rest) (ordinary : isOrdinary ch = true) :
    quotedPiece double (fuel + 1) c = (quotedPiece double (fuel + 1) c.next).map (behind ch) := by
  have more : c.run isOrdinary = ch :: c.next.run isOrdinary := by
    rw [run, h, List.takeWhile_cons_of_pos ordinary, run, rest_next_cons h]
  simp only [quotedPiece, more, List.length_cons]
  rw [show c.skip ((c.next.run isOrdinary).length + 1) = c.next.skip (c.next.run isOrdinary).length from rfl]
  generalize c.next.run isOrdinary = ordinary
  generalize c.next.skip (List.length ordinary) = d
  by_cases twice : !double ∧ d.here = '\x27' ∧ d.peek 1 = '\x27'
  · rw [if_pos twice, if_pos twice]
    cases quotedPiece double fuel (d.skip 2) <;> rfl
  rw [if_neg twice, if_neg twice]
  by_cases other : (double ∧ d.here = '\x27') ∨ (!double ∧ (d.here = '"' ∨ d.here = '\\'))
  · rw [if_pos other, if_pos other]
    cases quotedPiece double fuel d.next <;> rfl
  rw [if_neg other, if_neg other]
  by_cases escape : double ∧ d.here = '\\'
  · rw [if_pos escape, if_pos escape]
    cases readEscape d.next with
    | error fault => rfl
    | ok read =>
      rw [ok_bind, ok_bind]
      cases quotedPiece double fuel read.2 <;> rfl
  · rw [if_neg escape, if_neg escape]
    rfl

/-- In front of a quote or a backslash there is nothing ordinary. -/
theorem run_isOrdinary_eq_nil (h : c.rest = ch :: rest) (special : isOrdinary ch = false) :
    c.run isOrdinary = [] := by
  rw [run, h, List.takeWhile_cons_of_neg (by rw [special]; decide)]

theorem quotedPiece_quoteTwice (h : c.rest = '\x27' :: '\x27' :: rest) :
    quotedPiece false (fuel + 1) c = (quotedPiece false fuel (c.skip 2)).map (behind '\x27') := by
  have here : c.here = '\x27' := here_of_rest h
  have following : c.peek 1 = '\x27' := peek_one_of_rest h
  simp only [quotedPiece, run_isOrdinary_eq_nil h (by decide), List.length_nil, skip]
  rw [if_pos ⟨rfl, here, following⟩]
  cases quotedPiece false fuel c.next.next <;> rfl

/-- A character that would be special between the other kind of quotes stands for itself. -/
theorem quotedPiece_other (h : c.rest = ch :: rest)
    (other : (double = true ∧ ch = '\x27') ∨ (double = false ∧ (ch = '"' ∨ ch = '\\'))) :
    quotedPiece double (fuel + 1) c = (quotedPiece double fuel c.next).map (behind ch) := by
  have here : c.here = ch := here_of_rest h
  have special : isOrdinary ch = false := by
    rcases other with ⟨-, rfl⟩ | ⟨-, rfl | rfl⟩ <;> decide
  simp only [quotedPiece, run_isOrdinary_eq_nil h special, List.length_nil, skip, here]
  rw [if_neg, if_pos]
  · cases quotedPiece double fuel c.next <;> rfl
  · rcases other with ⟨rfl, rfl⟩ | ⟨rfl, rfl | rfl⟩ <;> simp
  · rcases other with ⟨rfl, rfl⟩ | ⟨rfl, rfl | rfl⟩ <;> simp

theorem quotedPiece_escape {after : Cursor} (h : c.rest = '\\' :: rest)
    (read : readEscape c.next = .ok ([ch], after)) :
    quotedPiece true (fuel + 1) c = (quotedPiece true fuel after).map (behind ch) := by
  have here : c.here = '\\' := here_of_rest h
  simp only [quotedPiece, run_isOrdinary_eq_nil h (by decide), List.length_nil, skip, here]
  rw [if_neg (by simp), if_neg (by simp), if_pos (by simp), read, ok_bind]
  cases quotedPiece true fuel after <;> rfl

/-- What ends a piece: white space, or the closing quote. -/
def EndsPiece (double : Bool) (ch : Char) (rest : Text) : Prop :=
  isBlankOrEnd ch = true ∨ (double = true ∧ ch = '"') ∨
    (double = false ∧ ch = '\x27' ∧ rest.headD endMark ≠ '\x27')

theorem quotedPiece_stop (h : c.rest = ch :: rest) (stop : EndsPiece double ch rest) :
    quotedPiece double (fuel + 1) c = .ok ([], c) := by
  have here : c.here = ch := here_of_rest h
  have following : c.peek 1 = rest.headD endMark := peek_one_of_rest h
  have special : isOrdinary ch = false := by
    rcases stop with blank | ⟨-, rfl⟩ | ⟨-, rfl, -⟩
    · simp [isOrdinary, blank]
    · decide
    · decide
  have quiet : ∀ d : Char, isBlankOrEnd d = false → ch = d → ¬ isBlankOrEnd ch = true := by
    rintro d hd rfl blank
    rw [hd] at blank
    cases blank
  simp only [quotedPiece, run_isOrdinary_eq_nil h special, List.length_nil, skip, here, following]
  rw [if_neg, if_neg, if_neg]
  · rintro ⟨rfl, escape⟩
    rcases stop with blank | ⟨-, other⟩ | ⟨other, -⟩
    · exact quiet '\\' (by decide) escape blank
    · exact absurd (escape.symm.trans other) (by decide)
    · cases other
  · rintro (⟨rfl, single⟩ | ⟨single, quote | escape⟩)
    · rcases stop with blank | ⟨-, other⟩ | ⟨other, -⟩
      · exact quiet '\x27' (by decide) single blank
      · exact absurd (single.symm.trans other) (by decide)
      · cases other
    · rcases stop with blank | ⟨rfl, -⟩ | ⟨-, other, -⟩
      · exact quiet '"' (by decide) quote blank
      · cases single
      · exact absurd (quote.symm.trans other) (by decide)
    · rcases stop with blank | ⟨rfl, -⟩ | ⟨-, other, -⟩
      · exact quiet '\\' (by decide) escape blank
      · cases single
      · exact absurd (escape.symm.trans other) (by decide)
  · rintro ⟨single, quote, twice⟩
    rcases stop with blank | ⟨-, other⟩ | ⟨-, -, once⟩
    · exact quiet '\x27' (by decide) quote blank
    · exact absurd (quote.symm.trans other) (by decide)
    · exact once twice

/-! ## Words -/

/-- What is written for a character is no white space and is read as the character. -/
structure Shows (double : Bool) (written : Text) (ch : Char) : Prop where
  head : ∃ first more, written = first :: more ∧ isBlankOrEnd first = false
  reads : ∀ (fuel : Nat) (c : Cursor) (rest : Text), c.rest = written ++ rest →
    ∃ left, fuel ≤ left ∧ quotedPiece double (fuel + 1) c =
      (quotedPiece double left (c.skip written.length)).map (behind ch)

theorem isBlankOrEnd_eq_false_of_isOrdinary (h : isOrdinary ch = true) : isBlankOrEnd ch = false := by
  unfold isOrdinary at h
  cases blank : isBlankOrEnd ch with
  | false => rfl
  | true => simp [blank] at h

theorem shows_ordinary (ordinary : isOrdinary ch = true) : Shows double [ch] ch where
  head := ⟨ch, [], rfl, isBlankOrEnd_eq_false_of_isOrdinary ordinary⟩
  reads := fun fuel _ _ h => ⟨fuel + 1, Nat.le_succ fuel, quotedPiece_ordinary h ordinary⟩

theorem shows_other
    (other : (double = true ∧ ch = '\x27') ∨ (double = false ∧ (ch = '"' ∨ ch = '\\'))) :
    Shows double [ch] ch where
  head := by
    refine ⟨ch, [], rfl, ?_⟩
    rcases other with ⟨-, rfl⟩ | ⟨-, rfl | rfl⟩ <;> decide
  reads := fun fuel _ _ h => ⟨fuel, Nat.le_refl fuel, quotedPiece_other h other⟩

/-- A word is read one character after the other. -/
theorem quotedPiece_word {write : Char → Text} {word : Text}
    (shows : ∀ ch ∈ word, Shows double (write ch) ch) (h : c.rest = word.flatMap write ++ ch :: rest)
    (stop : EndsPiece double ch rest) (enough : word.length < fuel) :
    quotedPiece double fuel c = .ok (word, c.skip (word.flatMap write).length) := by
  induction word generalizing c fuel with
  | nil =>
    obtain ⟨fuel, rfl⟩ := Nat.exists_eq_succ_of_ne_zero (Nat.ne_of_gt enough)
    exact quotedPiece_stop h stop
  | cons first word ih =>
    obtain ⟨fuel, rfl⟩ := Nat.exists_eq_succ_of_ne_zero (by omega : fuel ≠ 0)
    have shown := shows first List.mem_cons_self
    rw [List.flatMap_cons, List.append_assoc] at h
    obtain ⟨left, hl, read⟩ := shown.reads fuel c _ h
    have tailEnough : word.length < left := by
      rw [List.length_cons] at enough
      omega
    have tail := ih (fun d hd => shows d (List.mem_cons_of_mem first hd)) (rest_skip_append h) tailEnough
    rw [read, tail, List.flatMap_cons, List.length_append, skip_add]
    rfl

/-! ## Gaps of spaces -/

theorem eq_spaces {text : Text} (h : ∀ ch ∈ text, ch = ' ') : text = spaces text.length :=
  List.eq_replicate_of_mem h

/-- What may stand in front of a line end and behind it without counting. -/
theorem skipWhile_spaces {count : Nat} (h : c.rest = spaces count ++ ch :: rest)
    (visible : isBlankOrEnd ch = false) :
    c.run (fun ch => ch = ' ' || ch = '\t') = spaces count ∧ (c.skip count).rest = ch :: rest := by
  obtain ⟨-, -, noSpace, noTab⟩ := visible_iff.1 visible
  have all : ∀ d ∈ spaces count, (d = ' ' || d = '\t' : Bool) = true := by
    intro d hd
    rw [List.eq_of_mem_replicate hd]
    rfl
  have stop : ∀ d ∈ (ch :: rest).head?, (d = ' ' || d = '\t' : Bool) = false := by
    intro d hd
    cases hd
    simp [noSpace, noTab]
  have after := rest_skip_append h
  rw [spaces, List.length_replicate] at after
  exact ⟨run_of_rest h all stop, after⟩

/-- Spaces in front of something else are read as they are. -/
theorem quotedGap_spaces {count : Nat} (h : c.rest = spaces count ++ ch :: rest)
    (visible : isBlankOrEnd ch = false) : quotedGap c = .ok (spaces count, c.skip count) := by
  obtain ⟨run, after⟩ := skipWhile_spaces h visible
  have length : (spaces count).length = count := List.length_replicate
  have noBreak : isBreak (c.skip count).here = false := by
    rw [here_of_rest after]
    exact (visible_iff.1 visible).1
  simp only [quotedGap, run, length, after, List.isEmpty_cons, lineBreak?_eq_none noBreak]
  rfl

/-- What is written for a gap starts with white space and is read as the gap. -/
structure ShowsGap (written gap : Text) : Prop where
  head : ∃ first more, written = first :: more ∧ isBlankOrEnd first = true
  reads : ∀ (c : Cursor) (ch : Char) (rest : Text), c.rest = written ++ ch :: rest →
    isBlankOrEnd ch = false → quotedGap c = .ok (gap, c.skip written.length)

theorem showsGap_spaces {gap : Text} (nonEmpty : gap ≠ []) (all : ∀ ch ∈ gap, ch = ' ') :
    ShowsGap gap gap where
  head := by
    obtain ⟨first, more, rfl⟩ := List.exists_cons_of_ne_nil nonEmpty
    obtain rfl := all first List.mem_cons_self
    exact ⟨' ', more, rfl, by decide⟩
  reads := by
    intro c ch rest h visible
    rw [eq_spaces all] at h ⊢
    rw [quotedGap_spaces h visible, spaces, List.length_replicate]

/-- At its closing quote the text ends. -/
theorem readQuotedAfter_close {quote : Char} (h : c.rest = quote :: rest) :
    readQuotedAfter quote (fuel + 1) c = .ok ([], c.next) := by
  rw [readQuotedAfter, if_pos (here_of_rest h)]

theorem Shows.ne_nil {written : Text} (h : Shows double written ch) : written ≠ [] := by
  obtain ⟨first, more, rfl, -⟩ := h.head
  exact List.cons_ne_nil first more

/-- What is written for a text is as long as the text at least. -/
theorem length_le_flatMap {write : Char → Text} {text : Text} (h : ∀ ch ∈ text, write ch ≠ []) :
    text.length ≤ (text.flatMap write).length := by
  induction text with
  | nil => exact Nat.le_refl 0
  | cons first text ih =>
    have tail := ih fun d hd => h d (List.mem_cons_of_mem first hd)
    have head := List.length_pos_of_ne_nil (h first List.mem_cons_self)
    rw [List.flatMap_cons, List.length_append, List.length_cons]
    omega

/-- Behind a word, or without one, what follows starts with no white space if nothing blank does. -/
theorem exists_head_word {write : Char → Text} {word : Text}
    (shows : ∀ ch ∈ word, Shows double (write ch) ch) (nonEmpty : word ≠ []) (tail : Text) :
    ∃ first more, word.flatMap write ++ tail = first :: more ∧ isBlankOrEnd first = false := by
  cases word with
  | nil => exact absurd rfl nonEmpty
  | cons ch word =>
    obtain ⟨first, more, written, visible⟩ := (shows ch List.mem_cons_self).head
    refine ⟨first, more ++ (word.flatMap write ++ tail), ?_, visible⟩
    rw [List.flatMap_cons, written, List.append_assoc, List.cons_append]

section
variable {quote : Char} {write : Char → Text} {word more moreWritten : Text} {last : Cursor}

/-- A word is read up to the gap behind it, or to the closing quote. -/
theorem quotedPiece_front (h : c.rest = word.flatMap write ++ (moreWritten ++ quote :: rest))
    (shows : ∀ ch ∈ word, Shows (quote == '"') (write ch) ch)
    (stop : ∀ ch tail, moreWritten ++ quote :: rest = ch :: tail → EndsPiece (quote == '"') ch tail)
    (enough : c.rest.length ≤ fuel) :
    quotedPiece (quote == '"') fuel c = .ok (word, c.skip (word.flatMap write).length) := by
  obtain ⟨ch, tail, front⟩ : ∃ ch tail, moreWritten ++ quote :: rest = ch :: tail :=
    List.exists_cons_of_ne_nil (by simp)
  rw [front] at h
  have long := length_le_flatMap fun d hd => (shows d hd).ne_nil
  rw [h, List.length_append, List.length_cons] at enough
  exact quotedPiece_word shows h (stop ch tail front) (by omega)

/-- What is read from a gap on is the gap, the word behind it, and what is read behind the word. -/
theorem readQuotedAfter_gap {gap gapWritten : Text}
    (h : c.rest = gapWritten ++ (word.flatMap write ++ (moreWritten ++ quote :: rest)))
    (showsGap : ShowsGap gapWritten gap) (shows : ∀ ch ∈ word, Shows (quote == '"') (write ch) ch)
    (visible : isBlankOrEnd quote = false)
    (alone : word = [] → moreWritten = [])
    (stop : ∀ ch tail, moreWritten ++ quote :: rest = ch :: tail → EndsPiece (quote == '"') ch tail)
    (moreRead : readQuotedAfter quote fuel
      (c.skip (gapWritten.length + (word.flatMap write).length)) = .ok (more, last)) :
    readQuotedAfter quote (fuel + 1) c = .ok (gap ++ word ++ more, last) := by
  have afterGap := rest_skip_append h
  have opened : c.here ≠ quote := by
    obtain ⟨first, tail, rfl, blank⟩ := showsGap.head
    rw [here_of_rest h]
    rintro rfl
    rw [visible] at blank
    cases blank
  -- The gap ends at the word, or at the closing quote when there is none.
  have gapEnds : ∃ first tail, word.flatMap write ++ (moreWritten ++ quote :: rest) = first :: tail ∧
      isBlankOrEnd first = false := by
    by_cases empty : word = []
    · exact ⟨quote, rest, by rw [alone empty, empty]; rfl, visible⟩
    · exact exists_head_word shows empty _
  obtain ⟨first, tail, front, head⟩ := gapEnds
  have wordRead := quotedPiece_front afterGap shows stop (Nat.le_refl _)
  rw [readQuotedAfter, if_neg opened, showsGap.reads c first tail (by rw [h, front]) head, ok_bind]
  dsimp only
  rw [wordRead, ok_bind]
  dsimp only
  rw [← skip_add, moreRead]
  rfl

/-- What is read from an opening quote on is the first word and what is read behind it. -/
theorem readQuoted_word (h : c.rest = quote :: (word.flatMap write ++ (moreWritten ++ quote :: rest)))
    (shows : ∀ ch ∈ word, Shows (quote == '"') (write ch) ch)
    (stop : ∀ ch tail, moreWritten ++ quote :: rest = ch :: tail → EndsPiece (quote == '"') ch tail)
    (moreRead : readQuotedAfter quote c.rest.length (c.skip ((word.flatMap write).length + 1)) =
      .ok (more, last)) :
    readQuoted c = .ok (word ++ more, last) := by
  have enough : c.next.rest.length ≤ c.rest.length := by
    rw [rest_next, List.length_tail]
    omega
  have wordRead := quotedPiece_front (rest_next_cons h) shows stop enough
  rw [readQuoted]
  simp only [here_of_rest h]
  rw [wordRead, ok_bind]
  dsimp only
  rw [show c.next.skip (word.flatMap write).length = c.skip ((word.flatMap write).length + 1) from rfl,
    moreRead]
  rfl

end

/-- A text that starts with a gap is the gap, a word, and what is left behind the next gap's start. -/
theorem exists_gap_word {isGap p : Char → Bool} {text : Text} (nonEmpty : text ≠ [])
    (starts : ∀ ch ∈ text.head?, p ch = true)
    (whole : ∀ gap tail, text = gap ++ tail → gap ≠ [] → (∀ ch ∈ gap, p ch = true) →
      (∀ ch ∈ tail.head?, p ch = false) → ∀ ch ∈ tail.head?, isGap ch = false) :
    ∃ gap word more, text = gap ++ (word ++ more) ∧ gap ≠ [] ∧ (∀ ch ∈ gap, p ch = true) ∧
      (∀ ch ∈ word, isGap ch = false) ∧ (∀ ch ∈ more.head?, isGap ch = true) ∧
      (word = [] → more = []) := by
  obtain ⟨gap, tail, rfl, gapAll, tailHead⟩ := exists_run p text
  have gapNonEmpty : gap ≠ [] := by
    rintro rfl
    obtain ⟨first, rest, rfl⟩ := List.exists_cons_of_ne_nil nonEmpty
    have := tailHead first rfl
    rw [starts first rfl] at this
    cases this
  have visible := whole gap tail rfl gapNonEmpty gapAll tailHead
  obtain ⟨word, more, rfl, wordAll, moreHead⟩ := exists_run (fun ch => !isGap ch) tail
  refine ⟨gap, word, more, rfl, gapNonEmpty, gapAll, fun ch hc => by simpa using wordAll ch hc,
    fun ch hc => by simpa using moreHead ch hc, ?_⟩
  rintro rfl
  cases more with
  | nil => rfl
  | cons ch more =>
    have starts := moreHead ch rfl
    rw [visible ch rfl] at starts
    cases starts

end FixedExtract.Yaml
