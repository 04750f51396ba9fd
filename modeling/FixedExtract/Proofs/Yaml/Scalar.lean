import FixedExtract.Proofs.Yaml.DoubleQuoted
import FixedExtract.Proofs.Yaml.Number
import FixedExtract.Proofs.Yaml.Scanning
import FixedExtract.Proofs.Yaml.Style
/-!
# Scanning scalars

A written text is taken for one token, both in front of the colon behind a key and at the end of a line.
-/

namespace FixedExtract.Yaml

open Cursor

variable {c : Cursor} {text written more : Text} {plain allowed : Bool} {o : Scanned} {ch : Char}

/-- What is written for a scalar, the text of the scalar, and whether it stands without quotes. -/
inductive IsScalar : (written text : Text) → (plain : Bool) → Prop
  | plain {text : Text} : IsPlain text → startsMarked text = false → IsScalar text text true
  | single {text : Text} {indent : Nat} : 0 < indent → SingleQuotable text →
      IsScalar (writeSingle indent text) text false
  | double {text : Text} : IsScalar (writeDouble text) text false

namespace Scanned

/-- The position as the start of a key. -/
def keyStart (o : Scanned) (c : Cursor) : KeyStart :=
  ⟨0, o.tokens.length, o.indent == c.column, c.index, c.line, c.column⟩

/-- The places where keys may have started, once a node starts at the position. -/
def saved (o : Scanned) (c : Cursor) : (allowed : Bool) → List KeyStart
  | true => [o.keyStart c]
  | false => []

theorem saveKeyStart_state :
    (o.state c allowed []).saveKeyStart = .ok (o.state c allowed (o.saved c allowed)) := by
  cases allowed <;> rfl

/-! ## Which token is taken -/

/-- A text between quotes is taken for one. -/
theorem takeHere_quoted (h : c.rest = ch :: more) (quote : ch = '\x27' ∨ ch = '"') :
    (o.state c allowed []).takeHere = (o.state c allowed []).takeNode fun c =>
      (readQuoted c).map fun (text, c) => (.scalar text false, c) := by
  have noMark : c.atDocumentMark = false := by
    refine atDocumentMark_eq_false ?_
    rw [h]
    rintro d ⟨⟩
    rcases quote with rfl | rfl <;> decide
  have some : c.rest.isEmpty = false := by
    rw [h]
    rfl
  rcases quote with rfl | rfl <;> simp [Lexing.takeHere, here_of_rest h, some, noMark]

/-- What follows a hyphen, question mark or colon that a plain scalar starts with. -/
theorem peek_of_unmarked {tail : Text} (unmarked : startsMarked (ch :: tail) = false)
    (h : c.rest = ch :: (tail ++ more)) (mark : ch = '?' ∨ ch = ':' ∨ ch = '-') :
    isBlankOrEnd (c.peek 1) = false := by
  rw [startsMarked, Bool.or_eq_false_iff, Bool.or_eq_false_iff] at unmarked
  have joined := unmarked.1.2
  rw [peek_one_of_rest h]
  cases tail with
  | nil => rcases mark with rfl | rfl | rfl <;> cases joined
  | cons d tail => rcases mark with rfl | rfl | rfl <;> simpa using joined

/-- No plain scalar divides documents. -/
theorem atDocumentMark_plain (nonEmpty : text ≠ []) (unmarked : startsMarked text = false)
    (h : c.rest = text ++ more) (apart : ∀ ch ∈ more.head?, ch ≠ '-' ∧ ch ≠ '.') :
    c.atDocumentMark = false := by
  have noPrefix : ("---".toList.isPrefixOf text || "...".toList.isPrefixOf text) = false := by
    obtain ⟨first, tail, rfl⟩ := List.exists_cons_of_ne_nil nonEmpty
    rw [startsMarked, Bool.or_eq_false_iff] at unmarked
    exact unmarked.2
  unfold atDocumentMark
  rw [h, Bool.and_eq_false_iff]
  left
  rcases text with _ | ⟨a, _ | ⟨b, _ | ⟨e, tail⟩⟩⟩
  · exact absurd rfl nonEmpty
  · cases more with
    | nil => simp
    | cons d rest => simp [apart d rfl]
  · cases more with
    | nil => simp
    | cons d rest => simp [apart d rfl]
  · have unequal : (('-' == a && ('-' == b && ('-' == e && true))) ||
        ('.' == a && ('.' == b && ('.' == e && true)))) = false := noPrefix
    simpa [eq_comm (a := '-'), eq_comm (a := '.')] using unequal

/-- The characters that need a closer look are marks, but no longer when something is joined to them. -/
theorem startsPlain_of_unmarked {tail : Text} (visible : isBlankOrEnd ch = false)
    (unmarked : startsMarked (ch :: tail) = false) (h : c.rest = ch :: (tail ++ more)) :
    (o.state c allowed []).startsPlain = true := by
  have here : c.here = ch := here_of_rest h
  rw [Lexing.startsPlain]
  simp only [state_cursor, state_inFlow, here]
  by_cases special : ch = '?' ∨ ch = ':' ∨ ch = '-'
  · have joined := peek_of_unmarked unmarked h special
    rcases special with rfl | rfl | rfl <;> simp [joined]
  · have table : (['-', '?', ':', ',', '[', ']', '\x7b', '\x7d', '#', '&', '*', '!', '|', '>', '\x27', '"',
        '%', '@', '\x60'].all fun d => isStartMark d || d == '?' || d == ':' || d == '-') = true := by
      decide +kernel
    have noIndicator : Lexing.isIndicator ch = false := by
      rw [Bool.eq_false_iff]
      intro indicator
      have either := List.all_eq_true.1 table ch (List.elem_iff.1 indicator)
      simp only [Bool.or_eq_true, beq_iff_eq, or_assoc] at either
      rcases either with start | other
      · rw [startsMarked, start] at unmarked
        cases unmarked
      · exact special other
    simp [noIndicator, visible]

/-- A plain scalar is taken for one. -/
theorem takeHere_plain (isPlain : IsPlain text) (unmarked : startsMarked text = false)
    (h : c.rest = text ++ more) (noMark : c.atDocumentMark = false) :
    (o.state c allowed []).takeHere = (o.state c allowed []).takePlain := by
  obtain ⟨first, tail, rfl⟩ := List.exists_cons_of_ne_nil isPlain.nonEmpty
  have here : c.here = first := here_of_rest h
  have some : c.rest.isEmpty = false := by
    rw [h]
    rfl
  have visible := isPlain.flat.visible List.mem_cons_self (isPlain.head first rfl).1
  have plainly : (o.state c allowed []).startsPlain = true := startsPlain_of_unmarked visible unmarked h
  have noStart : ∀ d, isStartMark d = true → first ≠ d := by
    rintro d start rfl
    rw [startsMarked, start] at unmarked
    cases unmarked
  have apart : ∀ d, d = '?' ∨ d = ':' ∨ d = '-' → ¬(first = d ∧ isBlankOrEnd (c.peek 1) = true) := by
    rintro d special ⟨rfl, blank⟩
    rw [peek_of_unmarked unmarked h special] at blank
    cases blank
  have noDirective : ¬(first = '%' ∧ c.column = 0) := fun both => noStart '%' rfl both.1
  have noQuote : ¬(first = '\x27' ∨ first = '"') := not_or.2 ⟨noStart '\x27' rfl, noStart '"' rfl⟩
  unfold Lexing.takeHere
  simp only [state_cursor, state_inFlow, here, some, noMark, plainly, noDirective, noQuote,
    apart '-' (by simp), apart '?' (by simp), apart ':' (by simp), noStart '[' rfl, noStart '\x7b' rfl,
    noStart ']' rfl, noStart '\x7d' rfl, noStart ',' rfl, noStart '*' rfl, noStart '&' rfl,
    noStart '!' rfl, noStart '|' rfl, noStart '>' rfl, Bool.false_eq_true, and_false, false_and, false_or,
    if_false, if_true]

/-! ## The state behind a scalar -/

/-- On the next line a position saved for a key is stale, and since no key had to start there it is dropped. -/
theorem finishes_nextLine {s : Lexing} {o' : Scanned} {after : Cursor} {line : Line} {out : List Token}
    (ahead : s.ahead = o'.state (after.next.skip line.indent) true (o.saved c allowed))
    (rest : after.rest = line.written) (behind : c.line ≤ after.line) (inside : o.indent < c.column)
    (tail : o'.Continues line out) : s.Finishes out := by
  have moved := next_skip_line rest
  have nextRest : (after.next.skip line.indent).rest = line.text := by rw [moved]
  have earlier : ∀ key ∈ o.saved c allowed, key.required = false ∧
      key.line < (after.next.skip line.indent).line := by
    intro key hk
    cases allowed with
    | false => cases hk
    | true =>
      obtain rfl := List.mem_singleton.1 hk
      refine ⟨beq_eq_false_iff_ne.2 (Int.ne_of_lt inside), ?_⟩
      rw [moved]
      exact Nat.lt_succ_of_le behind
  exact finishes_of_ahead ahead earlier (by rw [nextRest]; exact line.starts)
    (tail _ nextRest (by rw [moved]))

theorem takeNode_state {read : Cursor → Except Fault (Token × Cursor)} {token : Token} {after : Cursor}
    (h : read c = .ok (token, after)) : (o.state c allowed []).takeNode read =
      .ok ((o.push token).state after false (o.saved c allowed)) := by
  rw [Lexing.takeNode, saveKeyStart_state, ok_bind, state_cursor, h]
  rfl

theorem takePlain_state {indent : Nat} (deeper : (o.indent + 1).toNat = indent) {scalar : PlainScalar}
    (h : readPlain false indent c = scalar) : (o.state c allowed []).takePlain =
      .ok ((o.push (.scalar scalar.text true)).state scalar.after scalar.brokeLine (o.saved c allowed)) := by
  rw [Lexing.takePlain, saveKeyStart_state, ← h, ← deeper]
  rfl

end Scanned

namespace IsScalar

/-- What is written for a scalar starts with it. -/
theorem startsToken (h : IsScalar written text plain) : StartsToken (written ++ more) := by
  cases h with
  | plain isPlain unmarked =>
    obtain ⟨first, tail, rfl⟩ := List.exists_cons_of_ne_nil isPlain.nonEmpty
    rintro ch ⟨⟩
    have head := isPlain.head first rfl
    exact ⟨head.1, head.2, (visible_iff.1 (isPlain.flat.visible List.mem_cons_self head.1)).1⟩
  | single => rintro ch ⟨⟩; decide
  | double => rintro ch ⟨⟩; decide

theorem length_pos (h : IsScalar written text plain) : 0 < written.length := by
  cases h with
  | plain isPlain unmarked => exact List.length_pos_of_ne_nil isPlain.nonEmpty
  | single => exact Nat.succ_pos _
  | double => exact Nat.succ_pos _

/-- A text between quotes is read up to its end. -/
theorem readQuoted_eq (h : IsScalar written text false) (rest : c.rest = written ++ more)
    (closes : more.headD endMark ≠ '\x27') : readQuoted c = .ok (text, c.skip written.length) := by
  cases h with
  | single indented quotable => exact readQuoted_writeSingle indented closes quotable rest
  | double => exact readQuoted_writeDouble rest

theorem takeNext_quoted (h : IsScalar written text false) (rest : c.rest = written ++ more)
    (closes : more.headD endMark ≠ '\x27') (inside : o.indent ≤ c.column) :
    (o.state c allowed []).takeNext =
      .ok ((o.push (.scalar text false)).state (c.skip written.length) false (o.saved c allowed)) := by
  have starts : StartsToken c.rest := rest ▸ h.startsToken
  have read := h.readQuoted_eq rest closes
  have quote : ∃ ch tail, written = ch :: tail ∧ (ch = '\x27' ∨ ch = '"') := by
    cases h with
    | single => exact ⟨_, _, rfl, .inl rfl⟩
    | double => exact ⟨_, _, rfl, .inr rfl⟩
  obtain ⟨ch, tail, rfl, quote⟩ := quote
  rw [Scanned.takeNext_eq_takeHere starts inside, Scanned.takeHere_quoted rest quote]
  refine Scanned.takeNode_state ?_
  rw [read]
  rfl

/-- A scalar in front of a colon is taken for one. -/
theorem takeNext_key (h : IsScalar written text plain) (rest : c.rest = written ++ ':' :: ch :: more)
    (blank : isBlankOrEnd ch = true) (inside : o.indent ≤ c.column) :
    (o.state c allowed []).takeNext =
      .ok ((o.push (.scalar text plain)).state (c.skip written.length) false (o.saved c allowed)) := by
  cases plain with
  | false => exact h.takeNext_quoted rest (show ':' ≠ '\x27' by decide) inside
  | true =>
    have starts : StartsToken c.rest := rest ▸ h.startsToken
    cases h with
    | plain isPlain unmarked =>
      have noMark := Scanned.atDocumentMark_plain isPlain.nonEmpty unmarked rest (by rintro d ⟨⟩; decide)
      rw [Scanned.takeNext_eq_takeHere starts inside,
        Scanned.takeHere_plain isPlain unmarked rest noMark]
      exact Scanned.takePlain_state rfl (readPlain_key isPlain rest blank (by omega))

/-- A scalar at the end of a line is taken for one, when the next line is not indented further than the
block that is open. What comes next is looked for from the next line on. -/
theorem takeNext_line {line : Line} (h : IsScalar written text plain) (rest : c.rest = written ++ line.written)
    (left : line.indent ≤ o.indent) (inside : o.indent ≤ c.column) :
    ∃ s, (o.state c allowed []).takeNext = .ok s ∧ s.tokens = .scalar text plain :: o.tokens ∧
      s.cursor.rest.length < c.rest.length ∧
      s.ahead = (o.push (.scalar text plain)).state ((c.skip written.length).next.skip line.indent) true
        (o.saved c allowed) := by
  have starts : StartsToken c.rest := rest ▸ h.startsToken
  have lineEnd : (c.skip written.length).rest = line.written := rest_skip_append rest
  have length := h.length_pos
  have total : c.rest.length = written.length + line.written.length := by
    rw [rest, List.length_append]
  cases plain with
  | false =>
    refine ⟨_, h.takeNext_quoted rest (show '\n' ≠ '\x27' by decide) inside, rfl, ?_, ?_⟩
    · rw [Scanned.state_cursor, lineEnd]
      omega
    · exact Lexing.ahead_line rfl lineEnd line.starts
  | true =>
    cases h with
    | plain isPlain unmarked =>
      have noMark := Scanned.atDocumentMark_plain isPlain.nonEmpty unmarked rest (by rintro d ⟨⟩; decide)
      obtain ⟨after, read, place⟩ := readPlain_line isPlain rest line.starts
        (show (o.indent + 1).toNat ≤ c.column + 1 by omega) (by omega)
      -- The reader has stopped in front of the indentation of the next line or behind it.
      have behind : after.rest.length ≤ line.written.length ∧
          ((o.push (.scalar text true)).state after true (o.saved c allowed)).ahead =
            (o.push (.scalar text true)).state ((c.skip text.length).next.skip line.indent) true
              (o.saved c allowed) := by
        have lineRest : (c.skip text.length).next.rest = spaces line.indent ++ line.text :=
          rest_next_cons lineEnd
        have tokenRest : ((c.skip text.length).next.skip line.indent).rest = line.text :=
          rest_skip_spaces lineRest
        rw [Line.written, List.length_cons, List.length_append]
        rcases place with rfl | rfl
        · rw [lineRest, List.length_append]
          exact ⟨Nat.le_succ _, Lexing.ahead_spaces lineRest line.starts⟩
        · rw [tokenRest]
          exact ⟨by omega, Lexing.ahead_of_starts (by rw [Scanned.state_cursor, tokenRest]; exact line.starts)⟩
      refine ⟨_, ?_, ?_, ?_, behind.2⟩
      · rw [Scanned.takeNext_eq_takeHere starts inside,
          Scanned.takeHere_plain isPlain unmarked rest noMark]
        exact Scanned.takePlain_state rfl read
      · rfl
      · rw [Scanned.state_cursor]
        omega

/-- Scanning goes on behind a scalar at the end of a line. -/
theorem finishes {line : Line} {out : List Token} (h : IsScalar written text plain)
    (rest : c.rest = written ++ line.written) (left : line.indent ≤ o.indent) (inside : o.indent < c.column)
    (tail : (o.push (.scalar text plain)).Continues line out) : (o.state c allowed []).Finishes out := by
  obtain ⟨s, next, tokens, shorter, ahead⟩ := h.takeNext_line rest left (Int.le_of_lt inside)
  have self : (o.state c allowed []).ahead = o.state c allowed [] :=
    Lexing.ahead_of_starts (rest ▸ h.startsToken)
  refine Lexing.finishes_of_step next ?_ ?_ (Scanned.finishes_nextLine ahead (rest_skip_append rest)
    (line_le_skip c _) inside tail)
  · rw [tokens]
    simp
  · rw [self]
    exact shorter

end IsScalar

/-! ## What is written for texts and integers -/

/-- A text is written for itself, unless a next line would have to stand between single quotes. -/
theorem isScalar_writeText {indent : Nat} (indented : 0 < indent)
    (kept : '\u0085' ∈ text → styleOf text = .double) :
    IsScalar (writeText indent text) text (styleOf text = .plain) := by
  rw [writeText]
  cases style : styleOf text with
  | plain =>
    obtain ⟨isPlain, -, unmarked⟩ := isPlain_of_styleOf style
    exact .plain isPlain unmarked
  | single =>
    refine .single indented (singleQuotable_of_styleOf style fun member => ?_)
    rw [kept member] at style
    cases style
  | double => exact .double

theorem isScalar_ofInt (n : Int) : IsScalar (Text.ofInt n) (Text.ofInt n) true :=
  .plain (isPlain_ofInt n) (startsMarked_ofInt n)

end FixedExtract.Yaml
