import FixedExtract.Proofs.Yaml.Quoted
import FixedExtract.Yaml.Scalar.Plain
import Mathlib.Data.List.Chain
/-!
# Reading plain text again

A plain text consists of words with spaces between them. Since no colon stands in front of a space and no
number sign behind one, it is read to its end: up to the colon behind a key, or up to the end of the line
when the next line is not indented far enough to go on with it.
-/

namespace FixedExtract.Yaml

open Cursor

variable {c : Cursor} {text word rest : Text} {ch : Char} {fuel indent count : Nat}

/-- Everything in the text can be shown on one line. -/
def Flat (text : Text) : Prop := ∀ ch ∈ text, isShown ch = true ∧ isWrittenBreak ch = false

namespace Flat

theorem visible (h : Flat text) (member : ch ∈ text) (noSpace : ch ≠ ' ') : isBlankOrEnd ch = false := by
  obtain ⟨shown, noBreak⟩ := h ch member
  exact visible_of_property (p := fun d => d != ' ' && isShown d && !isWrittenBreak d)
    (by simp [noSpace, shown, noBreak]) (by decide)

theorem inline (h : Flat text) : Inline text := by
  intro ch hc
  obtain ⟨shown, noBreak⟩ := h ch hc
  have mark : ch ≠ '\ufeff' := by
    rintro rfl
    exact absurd shown (by decide)
  by_cases space : ch = ' '
  · subst space
    exact ⟨by decide, mark⟩
  · exact ⟨(visible_iff.1 (h.visible hc space)).1, mark⟩

end Flat

/-- A text that a plain scalar can show. -/
structure IsPlain (text : Text) : Prop where
  nonEmpty : text ≠ []
  flat : Flat text
  head : ∀ ch ∈ text.head?, ch ≠ ' ' ∧ ch ≠ '#'
  last : ∀ ch ∈ text.getLast?, ch ≠ ' ' ∧ ch ≠ ':'
  free : text.IsChain fun c d => ¬(c = ':' ∧ d = ' ') ∧ ¬(c = ' ' ∧ d = '#')

namespace IsPlain

/-- A plain text is a word, or a word and a gap with a plain text behind it. -/
theorem exists_word (h : IsPlain text) : ∃ word tail, text = word ++ tail ∧ word ≠ [] ∧
    (∀ ch ∈ word, isBlankOrEnd ch = false) ∧ (∀ ch ∈ word.getLast?, ch ≠ ':') ∧
    (tail = [] ∨ ∃ count more, tail = spaces (count + 1) ++ more ∧ IsPlain more) := by
  obtain ⟨word, tail, rfl, wordAll, tailHead⟩ := exists_run (fun ch => !decide (ch = ' ')) text
  have noSpace : ∀ ch ∈ word, ch ≠ ' ' := fun ch hc => by simpa using wordAll ch hc
  have visible : ∀ ch ∈ word, isBlankOrEnd ch = false :=
    fun ch hc => h.flat.visible (List.mem_append_left tail hc) (noSpace ch hc)
  cases tail with
  | nil =>
    rw [List.append_nil] at h ⊢
    exact ⟨word, [], (List.append_nil word).symm, h.nonEmpty, visible, fun ch hc => (h.last ch hc).2,
      .inl rfl⟩
  | cons space tail =>
    obtain rfl : space = ' ' := by simpa using tailHead space rfl
    have nonEmpty : word ≠ [] := by
      rintro rfl
      exact (h.head ' ' rfl).1 rfl
    have parts := List.isChain_append.1 h.free
    have last : ∀ ch ∈ word.getLast?, ch ≠ ':' :=
      fun ch hc colon => (parts.2.2 ch hc ' ' rfl).1 ⟨colon, rfl⟩
    refine ⟨word, ' ' :: tail, rfl, nonEmpty, visible, last, .inr ?_⟩
    -- The gap takes in all the spaces, so what is behind it starts with none.
    obtain ⟨blanks, more, rfl, blanksAll, moreHead⟩ := exists_run (· = ' ') tail
    have same : ' ' :: blanks = spaces (blanks.length + 1) :=
      eq_spaces (List.forall_mem_cons.2 ⟨rfl, fun ch hc => by simpa using blanksAll ch hc⟩)
    refine ⟨blanks.length, more, by rw [← same]; rfl, ?_⟩
    rw [← List.cons_append, same] at h parts
    have lastSpace : (spaces (blanks.length + 1)).getLast? = some ' ' :=
      List.getLast?_replicate.trans (if_neg (Nat.succ_ne_zero _))
    have moreNonEmpty : more ≠ [] := by
      rintro rfl
      refine (h.last ' ' ?_).1 rfl
      rw [List.append_nil, List.getLast?_append, lastSpace]
      rfl
    have behind := List.isChain_append.1 parts.2.1
    refine ⟨moreNonEmpty, ?_, ?_, ?_, behind.2.1⟩
    · exact fun ch hc => h.flat ch (List.mem_append_right word (List.mem_append_right _ hc))
    · exact fun ch hc => ⟨by simpa using moreHead ch hc,
        fun number => (behind.2.2 ' ' lastSpace ch hc).2 ⟨rfl, number⟩⟩
    · intro ch hc
      refine h.last ch ?_
      rw [← List.append_assoc, List.getLast?_append_of_ne_nil _ moreNonEmpty]
      exact hc

end IsPlain

/-! ## Words and gaps -/

/-- A word is read to its end when a plain scalar cannot go on behind it. -/
theorem plainLength_word (visible : ∀ ch ∈ word, isBlankOrEnd ch = false)
    (last : ∀ ch ∈ word.getLast?, ch ≠ ':') (stop : plainLength false rest = 0) :
    plainLength false (word ++ rest) = word.length := by
  induction word with
  | nil => exact stop
  | cons ch word ih =>
    have tail := ih (fun d hd => visible d (List.mem_cons_of_mem ch hd)) (by
      intro d hd
      cases word with
      | nil => cases hd
      | cons e word => exact last d hd)
    have noMark : (ch = ':' && isBlankOrEnd ((word ++ rest).headD endMark) : Bool) = false := by
      cases word with
      | nil =>
        have := last ch rfl
        simp [this]
      | cons d word =>
        have := visible d (List.mem_cons_of_mem ch List.mem_cons_self)
        simp [this]
    rw [List.cons_append, plainLength, tail]
    simp only [visible ch List.mem_cons_self, Bool.false_and, Bool.or_false, noMark, Bool.false_eq_true,
      if_false, List.length_cons]

theorem plainLength_space (rest : Text) : plainLength false (' ' :: rest) = 0 := rfl

theorem skipSpaces_of_rest (h : c.rest = spaces count ++ rest) (stop : ∀ ch ∈ rest.head?, ch ≠ ' ') :
    c.skipSpaces = c.skip count := by
  have skipped := skipWhile_of_rest (p := (· = ' ')) h
    (fun ch hc => by simpa using List.eq_of_mem_replicate hc) (fun ch hc => by simpa using stop ch hc)
  rw [skipSpaces, skipped, spaces, List.length_replicate]

theorem run_spaces (h : c.rest = spaces count ++ rest) (stop : ∀ ch ∈ rest.head?, ch ≠ ' ') :
    c.run (· = ' ') = spaces count :=
  run_of_rest h (fun ch hc => by simpa using List.eq_of_mem_replicate hc)
    (fun ch hc => by simpa using stop ch hc)

theorem rest_skip_spaces (h : c.rest = spaces count ++ rest) : (c.skip count).rest = rest := by
  have := rest_skip_append h
  rwa [spaces, List.length_replicate] at this

/-- Spaces between two words stand for themselves. -/
theorem plainGap_spaces (h : c.rest = spaces count ++ ch :: rest) (visible : isBlankOrEnd ch = false) :
    plainGap c = ⟨spaces count, false, c.skip count⟩ := by
  obtain ⟨noBreak, -, noSpace, -⟩ := visible_iff.1 visible
  have stop : ∀ d ∈ (ch :: rest).head?, d ≠ ' ' := by
    rintro d ⟨⟩
    exact noSpace
  have atWord : isBreak (c.skip count).here = false := by
    rw [here_of_rest (rest_skip_spaces h)]
    exact noBreak
  rw [plainGap, skipSpaces_of_rest h stop, lineBreak?_eq_none atWord, run_spaces h stop]

/-! ## Line ends -/

/-- The text is empty or starts with something that is read: no space, no line end and no comment. -/
def StartsToken (text : Text) : Prop := ∀ ch ∈ text.head?, ch ≠ ' ' ∧ ch ≠ '#' ∧ isBreak ch = false

theorem StartsToken.noSpace (h : StartsToken rest) : ∀ ch ∈ rest.head?, ch ≠ ' ' :=
  fun ch hc => (h ch hc).1

theorem StartsToken.here (h : StartsToken c.rest) : isBreak c.here = false :=
  here_of_head (by decide) fun ch hc => (h ch hc).2.2

theorem StartsToken.noComment (h : StartsToken c.rest) : c.here ≠ '#' := by
  have := here_of_head (p := (· = '#')) (by decide) (fun ch hc => by simpa using (h ch hc).2.1)
  simpa using this

/-- No line is empty in front of a token. -/
theorem emptyLines_spaces (h : c.rest = spaces count ++ rest) (starts : StartsToken rest)
    (enough : count ≤ fuel) : emptyLines fuel c = ([], false, c.skip count) := by
  induction count generalizing c fuel with
  | zero =>
    have starts : StartsToken c.rest := by rwa [h]
    cases fuel with
    | zero => rfl
    | succ fuel =>
      have noSpace := here_of_head (p := (· = ' ')) (by decide)
        (fun ch hc => by simpa using starts.noSpace ch hc)
      rw [emptyLines, if_neg (by simpa using noSpace), lineBreak?_eq_none starts.here]
      rfl
  | succ count ih =>
    obtain ⟨fuel, rfl⟩ := Nat.exists_eq_succ_of_ne_zero (by omega : fuel ≠ 0)
    have here : c.here = ' ' := here_of_rest h
    rw [emptyLines, if_pos here, ih (rest_next_cons h) (by omega)]
    rfl

theorem inline_spaces : Inline (spaces count) := by
  intro ch hc
  rw [List.eq_of_mem_replicate hc]
  decide

/-- Behind the end of a line and the indentation of the next, the column is the indentation. -/
theorem next_skip_line (h : c.rest = '\n' :: (spaces count ++ rest)) :
    c.next.skip count = ⟨rest, c.index + 1 + count, c.line + 1, count⟩ := by
  have next := next_of_kept h (.inl rfl)
  have moved := skip_inline (c := c.next) (by rw [next]) inline_spaces
  rw [spaces, List.length_replicate, next] at moved
  rw [next, moved, Nat.zero_add]

/-- The end of a line and the indentation of the next are white space that may end a plain scalar. -/
theorem plainGap_line (h : c.rest = '\n' :: (spaces count ++ rest)) (starts : StartsToken rest) :
    plainGap c = ⟨[], true, c.next⟩ ∨ plainGap c = ⟨[' '], true, c.next.skip count⟩ := by
  have after := rest_next_cons h
  have noSpaces : c.skipSpaces = c := by
    refine skipWhile_eq_self ?_
    rw [h]
    rintro ch ⟨⟩
    decide
  have enough : count ≤ c.next.rest.length := by
    rw [after, List.length_append, spaces, List.length_replicate]
    omega
  simp only [plainGap, noSpaces, lineBreak?_of_kept h (.inl rfl)]
  by_cases divides : c.next.atDocumentMark = true
  · rw [if_pos divides]
    exact .inl rfl
  · rw [if_neg divides, emptyLines_spaces after starts enough]
    exact .inr rfl

/-- In front of what is no white space there is no gap. -/
theorem plainGap_none (h : c.rest = ch :: rest) (visible : isBlankOrEnd ch = false) :
    plainGap c = ⟨[], false, c⟩ :=
  plainGap_spaces (show c.rest = spaces 0 ++ ch :: rest from h) visible

/-! ## Plain scalars -/

/-- A piece that ends the scalar. -/
theorem readPlainAfter_last {gap following : Gap} (h : gap.after.rest = word ++ rest)
    (noComment : gap.after.here ≠ '#') (length : plainLength false (word ++ rest) = word.length)
    (nonEmpty : word ≠ []) (behind : plainGap (gap.after.skip word.length) = following)
    (ends : following.text = [] ∨ following.after.column < indent) :
    readPlainAfter false indent (fuel + 1) gap =
      ⟨gap.text ++ word, following.brokeLine, following.after⟩ := by
  have some : word.length ≠ 0 := by simpa using nonEmpty
  have taken : gap.after.rest.take word.length = word := by rw [h, List.take_left]
  have ended : (following.text.isEmpty || following.after.here = '#' ||
      (!false && following.after.column < indent) : Bool) = true := by
    rcases ends with empty | left
    · simp [empty]
    · simp [left]
  rw [readPlainAfter]
  simp only [if_neg noComment, h, length, if_neg some, behind, ended, if_true]
  rw [← h, taken]

/-- A piece that the scalar goes on behind. -/
theorem readPlainAfter_more {gap following : Gap} (h : gap.after.rest = word ++ rest)
    (noComment : gap.after.here ≠ '#') (length : plainLength false (word ++ rest) = word.length)
    (nonEmpty : word ≠ []) (behind : plainGap (gap.after.skip word.length) = following)
    (goesOn : following.text ≠ []) (noComment' : following.after.here ≠ '#')
    (column : indent ≤ following.after.column) :
    readPlainAfter false indent (fuel + 1) gap =
      { readPlainAfter false indent fuel following with
        text := gap.text ++ word ++ (readPlainAfter false indent fuel following).text } := by
  have some : word.length ≠ 0 := by simpa using nonEmpty
  have taken : gap.after.rest.take word.length = word := by rw [h, List.take_left]
  have ended : (following.text.isEmpty || following.after.here = '#' ||
      (!false && following.after.column < indent) : Bool) = false := by
    simp [goesOn, noComment', column]
  rw [readPlainAfter]
  simp only [if_neg noComment, h, length, if_neg some, behind, ended, Bool.false_eq_true, if_false]
  rw [← h, taken]

/-- A plain text is read to its end, if the gap behind it ends it. -/
theorem readPlainAfter_isPlain {gap following : Gap} (plain : IsPlain text)
    (h : gap.after.rest = text ++ rest) (column : indent ≤ gap.after.column + 1)
    (stop : plainLength false rest = 0) (behind : plainGap (gap.after.skip text.length) = following)
    (ends : following.text = [] ∨ following.after.column < indent) (enough : text.length ≤ fuel) :
    readPlainAfter false indent fuel gap =
      ⟨gap.text ++ text, following.brokeLine, following.after⟩ := by
  induction fuel generalizing text gap with
  | zero => exact absurd (List.eq_nil_of_length_eq_zero (Nat.le_zero.1 enough)) plain.nonEmpty
  | succ fuel ih =>
    obtain ⟨word, tail, rfl, nonEmpty, visible, last, tailCases⟩ := plain.exists_word
    rw [List.append_assoc] at h
    have noComment : gap.after.here ≠ '#' := by
      obtain ⟨first, others, rfl⟩ := List.exists_cons_of_ne_nil nonEmpty
      rw [here_of_rest h]
      exact (plain.head first rfl).2
    rcases tailCases with rfl | ⟨count, more, rfl, morePlain⟩
    · rw [List.append_nil] at behind ⊢
      have length := plainLength_word visible last stop
      exact readPlainAfter_last h noComment length nonEmpty behind ends
    · have length : plainLength false (word ++ (spaces (count + 1) ++ more ++ rest)) = word.length :=
        plainLength_word visible last (plainLength_space _)
      have afterWord := rest_skip_append h
      rw [List.append_assoc] at afterWord
      have moreRest := rest_skip_spaces afterWord
      -- The column moves on with the word and the spaces.
      have moved : indent ≤ ((gap.after.skip word.length).skip (count + 1)).column := by
        have inline := plain.flat.inline
        rw [← List.append_assoc, inline_append] at inline
        have front : gap.after.rest = word ++ spaces (count + 1) ++ (more ++ rest) := by
          rw [h]
          simp only [List.append_assoc]
        have cursor := skip_inline front inline.1
        have wordLength := List.length_pos_of_ne_nil nonEmpty
        rw [List.length_append, skip_add, spaces, List.length_replicate] at cursor
        rw [cursor]
        show indent ≤ gap.after.column + (word.length + (count + 1))
        omega
      obtain ⟨first, others, rfl⟩ := List.exists_cons_of_ne_nil morePlain.nonEmpty
      have firstHead := morePlain.head first rfl
      have moreGap := plainGap_spaces afterWord
        (morePlain.flat.visible List.mem_cons_self firstHead.1)
      have firstHere : ((gap.after.skip word.length).skip (count + 1)).here ≠ '#' := by
        rw [here_of_rest moreRest]
        exact firstHead.2
      rw [List.length_append, List.length_append, skip_add, skip_add, spaces, List.length_replicate]
        at behind
      have moreEnough : (first :: others).length ≤ fuel := by
        have := List.length_pos_of_ne_nil nonEmpty
        simp only [List.length_append] at enough
        omega
      have read : readPlainAfter false indent fuel
          ⟨spaces (count + 1), false, (gap.after.skip word.length).skip (count + 1)⟩ = _ :=
        ih morePlain moreRest (Nat.le_succ_of_le moved) behind moreEnough
      rw [readPlainAfter_more h noComment length nonEmpty moreGap (List.cons_ne_nil _ _) firstHere moved,
        read]
      simp only [List.append_assoc]

/-- A plain text in front of a colon is read up to the colon. -/
theorem readPlain_key (plain : IsPlain text) (h : c.rest = text ++ ':' :: ch :: rest)
    (blank : isBlankOrEnd ch = true) (column : indent ≤ c.column + 1) :
    readPlain false indent c = ⟨text, false, c.skip text.length⟩ := by
  have stop : plainLength false (':' :: ch :: rest) = 0 := by
    have visible : isBlankOrEnd ':' = false := by decide
    rw [plainLength]
    simp [visible, blank]
  have behind := plainGap_none (rest_skip_append h) (by decide)
  have enough : text.length ≤ c.rest.length := by
    rw [h, List.length_append]
    omega
  have front : (⟨[], false, c⟩ : Gap).after.rest = text ++ ':' :: ch :: rest := h
  exact readPlainAfter_isPlain plain front column stop behind (.inl rfl) enough

/-- A plain text at the end of a line is read up to there, when the next line is not indented far enough.
The position is at the start of the next line or behind its indentation. -/
theorem readPlain_line (plain : IsPlain text)
    (h : c.rest = text ++ '\n' :: (spaces count ++ rest)) (starts : StartsToken rest)
    (column : indent ≤ c.column + 1) (left : count < indent) :
    ∃ after, readPlain false indent c = ⟨text, true, after⟩ ∧
      (after = (c.skip text.length).next ∨ after = (c.skip text.length).next.skip count) := by
  have lineEnd := rest_skip_append h
  have enough : text.length ≤ c.rest.length := by
    rw [h, List.length_append]
    omega
  have read : ∀ following, plainGap (c.skip text.length) = following →
      following.text = [] ∨ following.after.column < indent →
      readPlain false indent c = ⟨text, following.brokeLine, following.after⟩ := by
    intro following behind ends
    rw [readPlain]
    exact readPlainAfter_isPlain plain h column rfl behind ends enough
  rcases plainGap_line lineEnd starts with behind | behind
  · exact ⟨_, read _ behind (.inl rfl), .inl rfl⟩
  · refine ⟨_, read _ behind (.inr ?_), .inr rfl⟩
    rw [next_skip_line lineEnd]
    exact left

end FixedExtract.Yaml
