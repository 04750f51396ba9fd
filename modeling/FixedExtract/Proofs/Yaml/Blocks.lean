import FixedExtract.Proofs.Yaml.Scalar
/-!
# Scanning the marks of blocks

A hyphen, a question mark and a colon open a block where they are indented further than the block around
them. A colon behind a scalar on the same line does so where the scalar stands, which becomes a key.
-/

namespace FixedExtract.Yaml

open Cursor

variable {c : Cursor} {text written more : Text} {plain allowed : Bool} {o : Scanned} {ch : Char}
  {keyStarts : List KeyStart} {token : Token} {depth : Nat}

/-- The brackets of an empty collection, and their tokens. -/
inductive Brackets : (opening closing : Char) → (first last : Token) → Prop
  | list : Brackets '[' ']' .flowSequenceStart .flowSequenceEnd
  | map : Brackets '\x7b' '\x7d' .flowMappingStart .flowMappingEnd

namespace Brackets

variable {opening closing : Char} {first last : Token}

theorem startsToken (brackets : Brackets opening closing first last) :
    StartsToken (opening :: more) ∧ StartsToken (closing :: more) := by
  cases brackets <;> constructor <;> (rintro ch ⟨⟩; decide)

theorem inline (brackets : Brackets opening closing first last) :
    isBreak opening = false ∧ opening ≠ '\ufeff' := by
  cases brackets <;> decide

/-- Neither bracket starts a line that divides documents. -/
theorem atDocumentMark (brackets : Brackets opening closing first last)
    (rest : c.rest = opening :: more ∨ c.rest = closing :: more) : c.atDocumentMark = false := by
  refine atDocumentMark_eq_false ?_
  rcases rest with rest | rest
  all_goals
    rw [rest]
    rintro d ⟨⟩
    cases brackets <;> decide

end Brackets

namespace Scanned

/-! ## Opening blocks -/

theorem enter_eq_self (same : o.indent = depth) : o.enter depth token = o := by
  rw [enter, if_neg (by omega)]

theorem indent_enter (token : Token) (inside : o.indent ≤ depth) : (o.enter depth token).indent = depth := by
  unfold enter
  split
  · rfl
  · omega

@[simp] theorem indent_push : (o.push token).indent = o.indent := rfl

theorem pushAll_cons {tokens : List Token} : (o.push token).pushAll tokens = o.pushAll (token :: tokens) := by
  simp [pushAll, push]

theorem pushAll_append (first second : List Token) :
    (o.pushAll first).pushAll second = o.pushAll (first ++ second) := by
  simp [pushAll]

/-- A block is opened at the position. -/
theorem openBlock_state : (o.state c allowed keyStarts).openBlock c.column o.tokens.length token =
    (o.enter c.column token).state c allowed keyStarts := by
  unfold Lexing.openBlock enter
  simp only [show (o.state c allowed keyStarts).indent = o.indent from rfl]
  split
  · simp [state, Lexing.insertAt]
  · rfl

/-- The scalar behind which a colon stands becomes a key, which may open a block. -/
theorem openBlock_key :
    ((((o.push token).state c allowed keyStarts).insertAt o.tokens.length .key).openBlock depth
      o.tokens.length .blockMappingStart) =
    ((o.enter depth .blockMappingStart).pushAll [.key, token]).state c allowed keyStarts := by
  unfold Lexing.openBlock enter
  simp only [show (((o.push token).state c allowed keyStarts).insertAt o.tokens.length .key).indent =
    o.indent from rfl]
  have last : o.tokens.length + 1 + 1 - o.tokens.length = 2 := by omega
  split <;> simp [state, push, pushAll, Lexing.insertAt, last]

/-! ## Marks -/

/-- A hyphen, question mark or colon in front of white space is a mark. -/
theorem takeHere_mark {blank : Char} (mark : ch = '-' ∨ ch = '?' ∨ ch = ':')
    (rest : c.rest = ch :: blank :: more) (free : isBlankOrEnd blank = true) :
    (o.state c allowed keyStarts).takeHere =
      if ch = '-' then (o.state c allowed keyStarts).takeBlockEntry
      else if ch = '?' then (o.state c allowed keyStarts).takeKey
      else (o.state c allowed keyStarts).takeValue := by
  have some : c.rest.isEmpty = false := by
    rw [rest]
    rfl
  have noMark : c.atDocumentMark = false := by
    have hyphen : blank ≠ '-' := by
      rintro rfl
      cases free
    have stop : blank ≠ '.' := by
      rintro rfl
      cases free
    rw [atDocumentMark, rest]
    simp [hyphen, stop]
  have joined : isBlankOrEnd (c.peek 1) = true := by
    rw [peek_one_of_rest rest]
    exact free
  unfold Lexing.takeHere
  simp only [state_cursor, state_inFlow, some, noMark, joined, here_of_rest rest]
  rcases mark with rfl | rfl | rfl <;> simp

/-- A mark starts a token. -/
theorem startsToken_mark (mark : ch = '-' ∨ ch = '?' ∨ ch = ':') : StartsToken (ch :: more) := by
  rintro d ⟨⟩
  rcases mark with rfl | rfl | rfl <;> decide

/-- A hyphen opens a sequence, unless it goes on with one. -/
theorem takeNext_blockEntry (rest : c.rest = '-' :: ' ' :: more) (inside : o.indent ≤ c.column) :
    (o.state c true []).takeNext =
      .ok (((o.enter c.column .blockSequenceStart).push .blockEntry).state c.next true []) := by
  rw [takeNext_eq_takeHere (rest ▸ startsToken_mark (.inl rfl)) inside, takeHere_mark (.inl rfl) rest rfl,
    if_pos rfl]
  exact congrArg (fun s : Lexing => { s with keyAllowed := true }.dropKeyStart >>= fun s =>
    Except.ok ((s.push .blockEntry).moveTo s.cursor.next)) openBlock_state

/-- A question mark opens a mapping, unless it goes on with one. -/
theorem takeNext_keyMark (rest : c.rest = '?' :: ' ' :: more) (inside : o.indent ≤ c.column) :
    (o.state c true []).takeNext =
      .ok (((o.enter c.column .blockMappingStart).push .key).state c.next true []) := by
  rw [takeNext_eq_takeHere (rest ▸ startsToken_mark (.inr (.inl rfl))) inside,
    takeHere_mark (.inr (.inl rfl)) rest rfl, if_neg (by decide), if_pos rfl]
  exact congrArg (fun s : Lexing => { s with keyAllowed := !s.inFlow }.dropKeyStart >>= fun s =>
    Except.ok ((s.push .key).moveTo s.cursor.next)) openBlock_state

/-- A colon at the start of a line goes on with a mapping. -/
theorem takeNext_valueMark (rest : c.rest = ':' :: ' ' :: more) (inside : o.indent = c.column) :
    (o.state c true []).takeNext = .ok ((o.push .value).state c.next true []) := by
  rw [takeNext_eq_takeHere (rest ▸ startsToken_mark (.inr (.inr rfl))) (Int.le_of_eq inside),
    takeHere_mark (.inr (.inr rfl)) rest rfl, if_neg (by decide), if_neg (by decide)]
  have opened : (o.state c true []).openBlock c.column o.tokens.length .blockMappingStart = _ := openBlock_state
  rw [enter_eq_self inside] at opened
  exact congrArg (fun s : Lexing => { s with keyAllowed := !s.inFlow }.dropKeyStart >>= fun s =>
    Except.ok ((s.push .value).moveTo s.cursor.next)) opened

/-- A colon behind a scalar makes a key of it, which opens a mapping unless it goes on with one. -/
theorem takeNext_keyValue {after : Cursor} {blank : Char} (rest : after.rest = ':' :: blank :: more)
    (free : isBlankOrEnd blank = true) (line : c.line = after.line) (near : after.index ≤ c.index + 1024)
    (inside : o.indent ≤ after.column) :
    ((o.push token).state after false (o.saved c true)).takeNext =
      .ok (((o.enter c.column .blockMappingStart).pushAll [.key, token, .value]).state after.next false
        []) := by
  have fresh : ((o.push token).state after false (o.saved c true)).dropStale =
      .ok ((o.push token).state after false (o.saved c true)) := by
    refine dropStale_fresh fun key hk => ?_
    obtain rfl := List.mem_singleton.1 hk
    exact isStale_near line near
  rw [Lexing.takeNext_eq, Lexing.ahead_of_starts (rest ▸ startsToken_mark (.inr (.inr rfl))), fresh, ok_bind,
    saved]
  have stays : ((o.push token).state after false [o.keyStart c]).closeBlocks after.column =
      (o.push token).state after false [o.keyStart c] := closeBlocks_self inside
  refine (congrArg Lexing.takeHere stays).trans ?_
  rw [takeHere_mark (.inr (.inr rfl)) rest free, if_neg (by decide), if_neg (by decide)]
  have opened : (((o.push token).state after false []).insertAt o.tokens.length .key).openBlock c.column
      o.tokens.length .blockMappingStart = _ := openBlock_key
  exact congrArg (fun s : Lexing => Except.ok (({ s with keyAllowed := false }.push .value).moveTo
    s.cursor.next)) opened

/-! ## Brackets -/

section
variable {opening closing : Char} {first last : Token} {line : Line} {out : List Token}

/-- The state behind the first of two brackets. -/
def within (o : Scanned) (c : Cursor) (allowed : Bool) (first : Token) : Lexing :=
  ⟨c.next, 1, o.indent, o.indents, true, o.saved c allowed, first :: o.tokens, o.tokens.length + 1⟩

theorem takeNext_opening (brackets : Brackets opening closing first last) (rest : c.rest = opening :: more)
    (inside : o.indent ≤ c.column) : (o.state c allowed []).takeNext = .ok (o.within c allowed first) := by
  have noMark := brackets.atDocumentMark (.inl rest)
  have some : c.rest.isEmpty = false := by
    rw [rest]
    rfl
  have taken : (o.state c allowed []).takeHere = (o.state c allowed []).takeFlowStart first := by
    cases brackets <;> simp [Lexing.takeHere, here_of_rest rest, some, noMark]
  rw [takeNext_eq_takeHere (rest ▸ brackets.startsToken.1) inside, taken, Lexing.takeFlowStart,
    saveKeyStart_state]
  rfl

theorem takeNext_closing (brackets : Brackets opening closing first last)
    (rest : c.rest = opening :: closing :: more) : (o.within c allowed first).takeNext =
      .ok ((o.pushAll [first, last]).state (c.skip 2) false (o.saved c allowed)) := by
  have next := next_inline rest brackets.inline.1 brackets.inline.2
  have closingRest : c.next.rest = closing :: more := rest_next_cons rest
  have saved : ∀ key ∈ o.saved c allowed, key = o.keyStart c := by
    intro key hk
    cases allowed with
    | false => cases hk
    | true => exact List.mem_singleton.1 hk
  have fresh : (o.within c allowed first).dropStale = .ok (o.within c allowed first) := by
    refine dropStale_fresh fun key hk => ?_
    obtain rfl := saved key hk
    exact isStale_near (by rw [within, next]; rfl) (by rw [within, next]; show c.index + 1 ≤ c.index + 1024; omega)
  have some : c.next.rest.isEmpty = false := by
    rw [closingRest]
    rfl
  have noMark := brackets.atDocumentMark (.inr closingRest)
  have taken : (o.within c allowed first).takeHere = (o.within c allowed first).takeFlowEnd last := by
    cases brackets <;> simp [Lexing.takeHere, within, here_of_rest closingRest, some, noMark]
  -- Between the brackets no place for a key of their own was kept.
  have kept : (o.within c allowed first).dropKeyStart = .ok (o.within c allowed first) := by
    cases allowed <;> rfl
  rw [Lexing.takeNext_eq, Lexing.ahead_of_starts (by rw [within, closingRest]; exact brackets.startsToken.2),
    fresh, ok_bind]
  refine Eq.trans (b := (o.within c allowed first).takeHere) rfl ?_
  rw [taken, Lexing.takeFlowEnd, kept]
  rfl

/-- An empty collection at the end of a line is scanned to the end. -/
theorem finishes_brackets (brackets : Brackets opening closing first last)
    (rest : c.rest = opening :: closing :: line.written) (inside : o.indent < c.column)
    (tail : (o.pushAll [first, last]).Continues line out) : (o.state c allowed []).Finishes out := by
  have both : c.rest = [opening, closing] ++ line.written := rest
  have lineEnd : (c.skip 2).rest = line.written := rest_skip_append both
  have closingRest : c.next.rest = closing :: line.written := rest_next_cons rest
  have self : (o.state c allowed []).ahead = o.state c allowed [] :=
    Lexing.ahead_of_starts (rest ▸ brackets.startsToken.1)
  have self' : (o.within c allowed first).ahead = o.within c allowed first :=
    Lexing.ahead_of_starts (by rw [within, closingRest]; exact brackets.startsToken.2)
  refine Lexing.finishes_of_step (takeNext_opening brackets rest (Int.le_of_lt inside)) ?_ ?_
    (Lexing.finishes_of_step (takeNext_closing brackets rest) ?_ ?_
      (finishes_nextLine (Lexing.ahead_line rfl lineEnd line.starts) lineEnd (line_le_skip c 2) inside tail))
  · cases brackets <;> simp [within]
  · rw [self]
    simp [within, rest_next, rest]
  · cases brackets <;> simp [pushAll, state]
  · rw [self', state_cursor, lineEnd]
    simp [within, closingRest]

end

end Scanned

/-! ## What ends a line -/

/-- What is written is scanned to the tokens where it ends a line. -/
structure EndsLine (written : Text) (tokens : List Token) : Prop where
  starts : ∀ more : Text, StartsToken (written ++ more)
  finishes : ∀ {c : Cursor} {o : Scanned} {allowed : Bool} {line : Line} {out : List Token},
    c.rest = written ++ line.written → line.indent ≤ o.indent → o.indent < c.column →
      (o.pushAll tokens).Continues line out → (o.state c allowed []).Finishes out

theorem IsScalar.endsLine (h : IsScalar written text plain) : EndsLine written [.scalar text plain] where
  starts := fun _ => h.startsToken
  finishes := fun rest left inside tail => h.finishes rest left inside tail

theorem Brackets.endsLine {opening closing : Char} {first last : Token}
    (brackets : Brackets opening closing first last) : EndsLine [opening, closing] [first, last] where
  starts := fun _ => brackets.startsToken.1
  finishes := fun rest _ inside tail => Scanned.finishes_brackets brackets rest inside tail

/-- Behind a space it is scanned to the same tokens. -/
theorem EndsLine.behindSpace {tokens out : List Token} {line : Line} (h : EndsLine written tokens)
    (rest : c.rest = ' ' :: (written ++ line.written)) (left : line.indent ≤ o.indent)
    (inside : o.indent ≤ c.column) (tail : (o.pushAll tokens).Continues line out) :
    (o.state c allowed []).Finishes out := by
  have next := next_inline rest (by decide) (by decide)
  have nextRest : c.next.rest = written ++ line.written := rest_next_cons rest
  have deeper : o.indent < c.next.column := by
    rw [next]
    show o.indent < (c.column + 1 : Nat)
    omega
  exact Scanned.finishes_space (nextRest ▸ rest) (nextRest ▸ h.starts _)
    (h.finishes nextRest left deeper tail)

end FixedExtract.Yaml
