import FixedExtract.Proofs.Traversal
import FixedExtract.Proofs.Yaml.Plain
import FixedExtract.Yaml.Lexer
/-!
# Scanning line by line

What is scanned next depends on where the next token is, not on the white space in front of it. At the end
of a line no key can start any more, so only the blocks that are open and the tokens so far count; and a
block that the next line is too far left for might as well be closed already.
-/

namespace FixedExtract.Yaml

open Cursor

variable {c : Cursor} {rest : Text} {count : Nat} {out : List Token}

namespace Lexing

variable {s s' : Lexing}

/-! ## Equations -/

section
-- Unfolded, these would make the equations of the functions that call them too large to check.
attribute [local irreducible] Lexing.takeNext Cursor.lineBreak?

theorem skipToToken_succ (fuel : Nat) (s : Lexing) : s.skipToToken (fuel + 1) =
    match s.cursor.skipSpaces.skipComment.lineBreak? with
    | some (_, after) =>
      skipToToken fuel { s with cursor := after, keyAllowed := s.keyAllowed || !s.inFlow }
    | none => s.moveTo s.cursor.skipSpaces.skipComment := rfl

theorem run_succ (fuel : Nat) (s : Lexing) : s.run (fuel + 1) =
    match s.takeNext with
    | .error fault => (s.settled, some fault)
    | .ok t => if t.tokens.head? = some .streamEnd then (t.tokens.reverse, none) else run fuel t := rfl

end

/-! ## Moving to the next token -/

/-- The state at the next token. -/
@[irreducible]
def ahead (s : Lexing) : Lexing := s.skipToToken s.cursor.rest.length.succ

theorem takeNext_eq (s : Lexing) :
    s.takeNext = s.ahead.dropStale >>= fun t => (t.closeBlocks t.cursor.column).takeHere := by
  unfold ahead
  rfl

/-- Moving to the next token leaves no more of the text than there was. -/
theorem length_ahead_le (s : Lexing) : s.ahead.cursor.rest.length ≤ s.cursor.rest.length := by
  have skipped : ∀ (c : Cursor) (n : Nat), (c.skip n).rest.length ≤ c.rest.length := by
    intro c n
    rw [rest_skip, List.length_drop]
    omega
  have moved : ∀ c : Cursor, c.skipSpaces.skipComment.rest.length ≤ c.rest.length := by
    intro c
    unfold skipComment
    split
    · exact Nat.le_trans (skipped _ _) (skipped _ _)
    · exact skipped _ _
  have broken : ∀ (c after : Cursor) (b : Char), c.lineBreak? = some (b, after) →
      after.rest.length ≤ c.rest.length := by
    intro c after b h
    unfold lineBreak? at h
    split at h
    · cases h
    · split at h
      · cases h
        exact skipped c 2
      · split at h <;> (cases h; exact skipped c 1)
  have steps : ∀ (fuel : Nat) (s : Lexing),
      (s.skipToToken fuel).cursor.rest.length ≤ s.cursor.rest.length := by
    intro fuel
    induction fuel with
    | zero => exact fun s => Nat.le_refl _
    | succ fuel ih =>
      intro s
      rw [skipToToken_succ]
      split
      · next b after h =>
        exact Nat.le_trans (ih _) (Nat.le_trans (broken _ _ _ h) (moved s.cursor))
      · exact moved s.cursor
  unfold ahead
  exact steps _ s

/-- At a token there is nothing to move over. -/
theorem ahead_of_starts (starts : StartsToken s.cursor.rest) : s.ahead = s := by
  have noSpaces : s.cursor.skipSpaces = s.cursor :=
    skipWhile_eq_self fun ch hc => by simpa using (starts ch hc).1
  unfold ahead
  rw [skipToToken_succ, noSpaces, skipComment, if_neg starts.noComment, lineBreak?_eq_none starts.here]
  rfl

theorem ahead_spaces (h : s.cursor.rest = spaces count ++ rest) (starts : StartsToken rest) :
    s.ahead = s.moveTo (s.cursor.skip count) := by
  have after := rest_skip_spaces h
  have starts : StartsToken (s.cursor.skip count).rest := by rwa [after]
  unfold ahead
  rw [skipToToken_succ, skipSpaces_of_rest h (by rw [← after]; exact starts.noSpace), skipComment,
    if_neg starts.noComment, lineBreak?_eq_none starts.here]

/-- At the end of a line the next token is behind the indentation of the next line, and may be a key. -/
theorem ahead_line (block : s.flowLevel = 0) (h : s.cursor.rest = '\n' :: (spaces count ++ rest))
    (starts : StartsToken rest) :
    s.ahead = { s with cursor := s.cursor.next.skip count, keyAllowed := true } := by
  have noSpaces : s.cursor.skipSpaces = s.cursor := by
    refine skipWhile_eq_self ?_
    rw [h]
    rintro ch ⟨⟩
    decide
  have noComment : s.cursor.here ≠ '#' := by
    rw [here_of_rest h]
    decide
  have after := rest_next_cons h
  have allowed : (s.keyAllowed || !s.inFlow) = true := by simp [inFlow, block]
  have length : s.cursor.rest.length = s.cursor.next.rest.length.succ := by
    rw [after, h, List.length_cons]
  have moved := ahead_spaces (s := { s with cursor := s.cursor.next, keyAllowed := true }) after starts
  unfold ahead at moved ⊢
  rw [skipToToken_succ, noSpaces, skipComment, if_neg noComment, lineBreak?_of_kept h (.inl rfl)]
  dsimp only
  rw [allowed, length, moved]
  rfl

/-! ## Scanning to the end -/

/-- Scanning goes on to the end of the text and leaves these tokens. -/
def Finishes (s : Lexing) (out : List Token) : Prop :=
  ∀ fuel, s.ahead.cursor.rest.length < fuel → s.run fuel = (out, none)

theorem finishes_of_step (h : s.takeNext = .ok s') (going : s'.tokens.head? ≠ some .streamEnd)
    (shorter : s'.cursor.rest.length < s.ahead.cursor.rest.length) (tail : s'.Finishes out) :
    s.Finishes out := by
  intro fuel enough
  obtain ⟨fuel, rfl⟩ := Nat.exists_eq_succ_of_ne_zero (by omega : fuel ≠ 0)
  have := length_ahead_le s'
  simp only [run_succ, h, if_neg going]
  exact tail fuel (by omega)

theorem finishes_of_end (h : s.takeNext = .ok s') (ended : s'.tokens.head? = some .streamEnd) :
    s.Finishes s'.tokens.reverse := by
  intro fuel enough
  obtain ⟨fuel, rfl⟩ := Nat.exists_eq_succ_of_ne_zero (by omega : fuel ≠ 0)
  simp only [run_succ, h, if_pos ended]

/-- States that the same token is taken from go on in the same way. -/
theorem Finishes.congr (same : s.takeNext = s'.takeNext)
    (length : s'.ahead.cursor.rest.length ≤ s.ahead.cursor.rest.length) (h : s'.Finishes out) :
    s.Finishes out := by
  intro fuel enough
  obtain ⟨fuel, rfl⟩ := Nat.exists_eq_succ_of_ne_zero (by omega : fuel ≠ 0)
  have finished := h (fuel + 1) (by omega)
  rw [run_succ] at finished ⊢
  rw [same]
  cases next : s'.takeNext with
  | error fault =>
    simp only [next, Prod.mk.injEq, reduceCtorEq, and_false] at finished
  | ok t =>
    simp only [next] at finished ⊢
    exact finished

end Lexing

/-! ## What has been scanned -/

/-- A line that follows: how far it is indented, and the text from there on. -/
structure Line where
  indent : Nat
  text : Text
  starts : StartsToken text

/-- The line, behind the end of the one before. -/
def Line.written (line : Line) : Text := '\n' :: (spaces line.indent ++ line.text)

/-- The blocks that are open, and the tokens so far, latest first. The outermost block is that of the
text. -/
structure Scanned where
  indent : Int
  indents : List Int
  tokens : List Token
  outermost : (-1 : Int) ∈ indent :: indents

namespace Scanned

variable {o : Scanned} {token : Token} {depth : Nat}

/-- Nothing has been scanned. -/
def start : Scanned := ⟨-1, [], [], List.mem_cons_self⟩

def push (o : Scanned) (token : Token) : Scanned := { o with tokens := token :: o.tokens }

/-- The tokens are put behind those so far, in order. -/
def pushAll (o : Scanned) (tokens : List Token) : Scanned :=
  { o with tokens := tokens.reverse ++ o.tokens }

/-- Opens a block at a depth that is deeper than the present one. -/
def enter (o : Scanned) (depth : Nat) (token : Token) : Scanned :=
  if o.indent < depth then
    ⟨depth, o.indent :: o.indents, token :: o.tokens, List.mem_cons_of_mem _ o.outermost⟩
  else o

/-- The state of reading at a position outside flow collections. -/
def state (o : Scanned) (c : Cursor) (keyAllowed : Bool) (keyStarts : List KeyStart) : Lexing :=
  ⟨c, 0, o.indent, o.indents, keyAllowed, keyStarts, o.tokens, o.tokens.length⟩

@[simp] theorem state_cursor (o : Scanned) (c : Cursor) (allowed : Bool) (keyStarts : List KeyStart) :
    (o.state c allowed keyStarts).cursor = c := rfl

@[simp] theorem state_inFlow (o : Scanned) (c : Cursor) (allowed : Bool) (keyStarts : List KeyStart) :
    (o.state c allowed keyStarts).inFlow = false := rfl

/-! ### Places where keys may have started -/

section
variable {allowed : Bool} {keyStarts : List KeyStart}

theorem dropStale_nil : (o.state c allowed []).dropStale = .ok (o.state c allowed []) := rfl

/-- Places on earlier lines are forgotten. -/
theorem dropStale_earlier (free : ∀ key ∈ keyStarts, key.required = false ∧ key.line < c.line) :
    (o.state c allowed keyStarts).dropStale = .ok (o.state c allowed []) := by
  have stale : ∀ key ∈ keyStarts, (o.state c allowed keyStarts).isStale key = true := by
    intro key hk
    have earlier := (free key hk).2
    have : key.line ≠ c.line := by omega
    simp [Lexing.isStale, state, this]
  have noneRequired : (keyStarts.any fun key =>
      (o.state c allowed keyStarts).isStale key && key.required) = false := by
    rw [List.any_eq_false]
    intro key hk
    simp [(free key hk).1]
  have noneLeft : (keyStarts.filter fun key => !(o.state c allowed keyStarts).isStale key) = [] := by
    rw [List.filter_eq_nil_iff]
    intro key hk
    simp [stale key hk]
  show (if (keyStarts.any fun key => (o.state c allowed keyStarts).isStale key && key.required) = true then
    _ else _) = _
  rw [noneRequired, if_neg Bool.false_ne_true]
  show Except.ok (o.state c allowed (keyStarts.filter _)) = _
  rw [noneLeft]

/-- Places that are not too far back are kept. -/
theorem dropStale_fresh {s : Lexing} (fresh : ∀ key ∈ s.keyStarts, s.isStale key = false) :
    s.dropStale = .ok s := by
  have noneRequired : (s.keyStarts.any fun key => s.isStale key && key.required) = false := by
    rw [List.any_eq_false]
    intro key hk
    simp [fresh key hk]
  have allLeft : (s.keyStarts.filter fun key => !s.isStale key) = s.keyStarts := by
    rw [List.filter_eq_self]
    intro key hk
    simp [fresh key hk]
  rw [Lexing.dropStale, noneRequired, if_neg Bool.false_ne_true, allLeft]

/-- A place on the line is not too far back for the next 1024 characters. -/
theorem isStale_near {s : Lexing} {key : KeyStart} (line : key.line = s.cursor.line)
    (near : s.cursor.index ≤ key.index + 1024) : s.isStale key = false := by
  simp [Lexing.isStale, line, Nat.not_lt.2 near]

/-! ### Open blocks -/

/-- The blocks that are deeper than a column are closed. -/
theorem closeBlocks_append (deeper : List Int) {indents : List Int} {indent column : Int}
    (blocks : o.indent :: o.indents = deeper ++ indent :: indents) (closed : ∀ i ∈ deeper, column < i)
    (stays : indent ≤ column) : (o.state c allowed keyStarts).closeBlocks column =
      ⟨c, 0, indent, indents, allowed, keyStarts, List.replicate deeper.length .blockEnd ++ o.tokens,
        o.tokens.length + deeper.length⟩ := by
  have taken : (o.indent :: o.indents).takeWhile (column < ·) = deeper := by
    rw [blocks, List.takeWhile_append_of_pos (by simpa using closed), List.takeWhile_cons, if_neg,
      List.append_nil]
    simpa using stays
  have left : (o.indent :: o.indents).drop deeper.length = indent :: indents := by
    rw [blocks, List.drop_left]
  unfold Lexing.closeBlocks
  simp only [state, taken, left, Lexing.inFlow, ne_eq, not_true_eq_false, decide_false,
    Bool.false_eq_true, if_false]

/-- Blocks that the position is not left of stay open. -/
theorem closeBlocks_self (inside : o.indent ≤ c.column) :
    (o.state c allowed keyStarts).closeBlocks c.column = o.state c allowed keyStarts :=
  closeBlocks_append [] rfl (List.forall_mem_nil _) inside

/-- A block that a column is left of might as well have been closed before. -/
theorem closeBlocks_cons {indent inner : Int} {indents : List Int} {tokens : List Token}
    {outermost : (-1 : Int) ∈ inner :: indent :: indents} (outermost' : (-1 : Int) ∈ indent :: indents)
    (left : (c.column : Int) < inner) :
    ((⟨inner, indent :: indents, tokens, outermost⟩ : Scanned).state c allowed keyStarts).closeBlocks
        c.column =
      ((⟨indent, indents, .blockEnd :: tokens, outermost'⟩ : Scanned).state c allowed keyStarts).closeBlocks
        c.column := by
  have outer : (indent :: indents).dropWhile ((c.column : Int) < ·) ≠ [] := by
    intro none
    have := List.dropWhile_eq_nil_iff.1 none (-1) outermost'
    simp only [decide_eq_true_eq] at this
    omega
  obtain ⟨stays, others, rest⟩ := List.exists_cons_of_ne_nil outer
  have blocks := (List.takeWhile_append_dropWhile (p := ((c.column : Int) < ·))
    (l := indent :: indents)).symm
  have closed : ∀ i ∈ (indent :: indents).takeWhile ((c.column : Int) < ·), (c.column : Int) < i :=
    fun i hi => by simpa using List.mem_takeWhile_imp hi
  have stays_le : stays ≤ c.column := by
    have := List.head?_dropWhile_not ((c.column : Int) < ·) (indent :: indents)
    rw [rest] at this
    simpa using this
  rw [rest] at blocks
  have outerClosed : ((⟨indent, indents, .blockEnd :: tokens, outermost'⟩ : Scanned).state c allowed
      keyStarts).closeBlocks c.column = _ := closeBlocks_append _ blocks closed stays_le
  rw [outerClosed, closeBlocks_append (o := ⟨inner, indent :: indents, tokens, outermost⟩) _
    (congrArg (inner :: ·) blocks) (List.forall_mem_cons.2 ⟨left, closed⟩) stays_le]
  simp only [List.length_cons, List.replicate_succ', List.append_assoc, List.singleton_append,
    Nat.add_assoc, Nat.add_comm 1]

end

/-! ### Lines -/

variable {line : Line} {allowed : Bool} {keyStarts : List KeyStart}

/-- In front of a token only the blocks that the position is not left of count. -/
theorem takeNext_eq_takeHere (starts : StartsToken c.rest) (inside : o.indent ≤ c.column) :
    (o.state c allowed []).takeNext = (o.state c allowed []).takeHere := by
  rw [Lexing.takeNext_eq, Lexing.ahead_of_starts starts, dropStale_nil, ok_bind]
  exact congrArg Lexing.takeHere (closeBlocks_self inside)

/-- On a later line no key can start where one may have started before. -/
theorem finishes_of_ahead {s : Lexing} (ahead : s.ahead = o.state c true keyStarts)
    (earlier : ∀ key ∈ keyStarts, key.required = false ∧ key.line < c.line) (starts : StartsToken c.rest)
    (h : (o.state c true []).Finishes out) : s.Finishes out := by
  have self : (o.state c true []).ahead = o.state c true [] := Lexing.ahead_of_starts starts
  refine .congr ?_ ?_ h
  · rw [Lexing.takeNext_eq, Lexing.takeNext_eq, ahead, self, dropStale_earlier earlier, dropStale_nil]
  · rw [ahead, self]
    exact Nat.le_refl _

/-- Scanning goes on behind a token that was taken at the position. -/
theorem finishes_of_step {o' : Scanned} {after : Cursor} {allowed' : Bool} {keyStarts' : List KeyStart}
    (starts : StartsToken c.rest)
    (next : (o.state c allowed keyStarts).takeNext = .ok (o'.state after allowed' keyStarts'))
    (going : o'.tokens.head? ≠ some .streamEnd) (shorter : after.rest.length < c.rest.length)
    (h : (o'.state after allowed' keyStarts').Finishes out) : (o.state c allowed keyStarts).Finishes out := by
  have self : (o.state c allowed keyStarts).ahead = o.state c allowed keyStarts :=
    Lexing.ahead_of_starts starts
  exact Lexing.finishes_of_step next going (by rw [self]; exact shorter) h

/-- A space in front of a token does not matter. -/
theorem finishes_space (rest : c.rest = ' ' :: c.next.rest) (starts : StartsToken c.next.rest)
    (h : (o.state c.next allowed []).Finishes out) : (o.state c allowed []).Finishes out := by
  have moved : (o.state c allowed []).ahead = o.state c.next allowed [] :=
    Lexing.ahead_spaces (s := o.state c allowed []) (show c.rest = spaces 1 ++ c.next.rest from rest) starts
  have self : (o.state c.next allowed []).ahead = o.state c.next allowed [] := Lexing.ahead_of_starts starts
  refine .congr ?_ ?_ h
  · rw [Lexing.takeNext_eq, Lexing.takeNext_eq, moved, self]
  · rw [moved, self]

/-- Scanning goes on to the end from the line on. -/
def Continues (o : Scanned) (line : Line) (out : List Token) : Prop :=
  ∀ c : Cursor, c.rest = line.text → c.column = line.indent → (o.state c true []).Finishes out

/-- At the end of a line scanning goes on with the next one. -/
theorem Continues.finishes (h : o.Continues line out) (rest : c.rest = line.written) :
    (o.state c allowed []).Finishes out := by
  have moved := next_skip_line rest
  have starts : StartsToken (c.next.skip line.indent).rest := by
    rw [moved]
    exact line.starts
  have ahead : (o.state c allowed []).ahead = o.state (c.next.skip line.indent) true [] :=
    Lexing.ahead_line rfl rest line.starts
  exact finishes_of_ahead ahead (by simp) starts (h _ (by rw [moved]) (by rw [moved]))

/-- A block that the line is left of is closed in front of it. -/
theorem Continues.close (h : (o.push .blockEnd).Continues line out) (left : line.indent < depth) :
    (⟨depth, o.indent :: o.indents, o.tokens, List.mem_cons_of_mem _ o.outermost⟩ : Scanned).Continues
      line out := by
  intro c rest column
  have left : (c.column : Int) < depth := by omega
  have starts : StartsToken c.rest := rest ▸ line.starts
  refine .congr ?_ ?_ (h c rest column)
  · rw [Lexing.takeNext_eq, Lexing.takeNext_eq, Lexing.ahead_of_starts starts,
      Lexing.ahead_of_starts starts, dropStale_nil, dropStale_nil, ok_bind, ok_bind]
    exact congrArg Lexing.takeHere (closeBlocks_cons o.outermost left)
  · rw [Lexing.ahead_of_starts starts, Lexing.ahead_of_starts starts]
    exact Nat.le_refl _

end Scanned

end FixedExtract.Yaml
