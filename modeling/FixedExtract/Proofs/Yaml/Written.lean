import FixedExtract.Proofs.Yaml.Blocks
import FixedExtract.Proofs.Yaml.Shown
/-!
# Scanning written documents

The tokens of a written document are those of its parts in order. A line that is indented less than a block
closes it; so the tokens depend on the depths at which blocks are written, and a list that stands under a
key as deep as the key has no block of its own.
-/

namespace FixedExtract.Yaml

open Cursor

/-! ## Documents that are read as they are written -/

/-- A next line in the text stands between double quotes: between single quotes it reads as a space. -/
def IsLegible (text : Text) : Prop := '\u0085' ∈ text → styleOf text = .double

/-- What is written in front of a colon is not too long to be found to be a key. -/
def IsLegibleKey (key : Text) : Prop :=
  IsLegible key ∧ (isSimpleKey key = true → (writeText 0 key).length ≤ 1024)

namespace Document

mutual

/-- The document is read as it is written: its keys are distinct, and its texts and integers are read
back. -/
def Legible : Document → Prop
  | .text t => IsLegible t
  | .int n => (Text.ofNat n.natAbs).length ≤ Text.maxDigits
  | .list items => AllLegible items
  | .map entries => (entries.map Prod.fst).Nodup ∧ EntriesLegible entries

def AllLegible : List Document → Prop
  | [] => True
  | item :: rest => item.Legible ∧ AllLegible rest

def EntriesLegible : List (Text × Document) → Prop
  | [] => True
  | (key, item) :: rest => IsLegibleKey key ∧ item.Legible ∧ EntriesLegible rest

end

theorem allLegible_iff {items : List Document} : AllLegible items ↔ ∀ item ∈ items, item.Legible := by
  induction items with
  | nil => simp [AllLegible]
  | cons item rest ih => rw [AllLegible, ih, List.forall_mem_cons]

theorem entriesLegible_iff {entries : List (Text × Document)} :
    EntriesLegible entries ↔ ∀ entry ∈ entries, IsLegibleKey entry.1 ∧ entry.2.Legible := by
  induction entries with
  | nil => simp [EntriesLegible]
  | cons entry rest ih => rw [EntriesLegible, ih, List.forall_mem_cons, and_assoc]

/-! ## Tokens -/

/-- The token of a text. -/
def textToken (text : Text) : Token := .scalar text (styleOf text = .plain)

mutual

/-- The tokens of a document; a list has no block of its own if `flat`. -/
def tokens (flat : Bool) : Document → List Token
  | .text t => [textToken t]
  | .int n => [.scalar (Text.ofInt n) true]
  | .list [] => [.flowSequenceStart, .flowSequenceEnd]
  | .map [] => [.flowMappingStart, .flowMappingEnd]
  | .list (item :: rest) =>
    if flat then itemTokens (item :: rest)
    else .blockSequenceStart :: itemTokens (item :: rest) ++ [.blockEnd]
  | .map (entry :: rest) => .blockMappingStart :: entryTokens (entry :: rest) ++ [.blockEnd]

def itemTokens : List Document → List Token
  | [] => []
  | item :: rest => .blockEntry :: item.tokens false ++ itemTokens rest

/-- A list under a key in front of a colon is as deep as the key. -/
def entryTokens : List (Text × Document) → List Token
  | [] => []
  | (key, item) :: rest =>
    .key :: textToken key :: .value :: item.tokens (isSimpleKey key) ++ entryTokens rest

end

end Document

namespace Scanned

variable {c : Cursor} {o : Scanned} {line : Line} {out : List Token} {depth : Nat} {block : Text}

theorem pushAll_three {first second third : Token} {tokens : List Token} :
    o.pushAll (first :: second :: third :: tokens) = (o.pushAll [first, second, third]).pushAll tokens :=
  (pushAll_append [first, second, third] tokens).symm

/-- A block may end in front of the line. -/
theorem continues_enter {start : Token} {tokens : List Token} (deeper : o.indent < depth)
    (left : line.indent < depth)
    (h : (o.pushAll (start :: tokens ++ [.blockEnd])).Continues line out) :
    ((o.enter depth start).pushAll tokens).Continues line out := by
  have closed : ((o.pushAll (start :: tokens)).push .blockEnd).Continues line out := by
    have same : (o.pushAll (start :: tokens)).push .blockEnd = o.pushAll (start :: tokens ++ [.blockEnd]) := by
      simp [pushAll, push]
    rw [same]
    exact h
  have opened := closed.close left
  rw [enter, if_pos deeper]
  simpa [pushAll] using opened

/-- What is written on lines of its own at a depth, in front of another line, starts a line. -/
theorem exists_line {written : Text} (fresh : written = lineStart depth true ++ block)
    (starts : StartsToken (block ++ line.written))
    (h : ∀ c : Cursor, c.rest = block ++ line.written → c.column = depth → (o.state c true []).Finishes out) :
    ∃ first : Line, first.written = written ++ line.written ∧ first.indent ≤ depth ∧
      o.Continues first out := by
  refine ⟨⟨depth, block ++ line.written, starts⟩, ?_, Nat.le_refl depth, h⟩
  rw [fresh, List.append_assoc]
  rfl

end Scanned

/-! ## Lines of blocks -/

theorem writeItems_fresh {depth : Nat} (item : Document) (rest : List Document) :
    writeItems depth true (item :: rest) = lineStart depth true ++ writeItems depth false (item :: rest) := by
  rw [writeItems, writeItems, List.append_assoc, List.append_assoc]
  rfl

theorem writeEntries_fresh {depth : Nat} (entry : Text × Document) (rest : List (Text × Document)) :
    writeEntries depth true (entry :: rest) =
      lineStart depth true ++ writeEntries depth false (entry :: rest) := by
  rw [writeEntries, writeEntries, List.append_assoc, List.append_assoc]
  rfl

namespace Document

variable {c : Cursor} {o : Scanned} {line : Line} {out : List Token} {depth : Nat}

/-- What follows a key and its colon starts with a space or on a line of its own. -/
theorem exists_writeAfter_key (document : Document) :
    ∃ blank more, writeAfter .key depth document = blank :: more ∧ isBlankOrEnd blank = true := by
  cases document with
  | text t => exact ⟨' ', _, by rw [writeAfter]; rfl, rfl⟩
  | int n => exact ⟨' ', _, by rw [writeAfter]; rfl, rfl⟩
  | list items =>
    cases items with
    | nil => exact ⟨' ', _, by rw [writeAfter]; rfl, rfl⟩
    | cons item rest => exact ⟨'\n', _, by rw [writeAfter]; exact writeItems_fresh item rest, rfl⟩
  | map entries =>
    cases entries with
    | nil => exact ⟨' ', _, by rw [writeAfter]; rfl, rfl⟩
    | cons entry rest => exact ⟨'\n', _, by rw [writeAfter]; exact writeEntries_fresh entry rest, rfl⟩

/-- A text is written for its token. -/
theorem isScalar_textToken (depth : Nat) {text : Text} (legible : IsLegible text) :
    IsScalar (writeText (depth + 2) text) text (styleOf text = .plain) :=
  isScalar_writeText (Nat.succ_pos _) legible

theorem startsToken_writeItems (item : Document) (rest : List Document) (more : Text) :
    StartsToken (writeItems depth false (item :: rest) ++ more) := by
  rw [writeItems]
  exact Scanned.startsToken_mark (.inl rfl)

theorem startsToken_writeEntries {key : Text} (legible : IsLegible key) (item : Document)
    (rest : List (Text × Document)) (more : Text) :
    StartsToken (writeEntries depth false ((key, item) :: rest) ++ more) := by
  rw [writeEntries]
  split
  · have starts : StartsToken (writeText (depth + 2) key ++
        (':' :: writeAfter .key depth item ++ (writeEntries depth true rest ++ more))) :=
      (isScalar_textToken depth legible).startsToken
    simpa [lineStart] using starts
  · exact Scanned.startsToken_mark (.inr (.inl rfl))

/-- A key in front of a colon is scanned together with the colon. -/
theorem finishes_simpleKey {key more : Text} {blank : Char} (legible : IsLegibleKey key)
    (simple : isSimpleKey key = true) (inside : o.indent ≤ c.column)
    (rest : c.rest = writeText (depth + 2) key ++ ':' :: blank :: more) (free : isBlankOrEnd blank = true)
    (h : ∀ after : Cursor, after.rest = blank :: more → c.column < after.column →
      (((o.enter c.column .blockMappingStart).pushAll [.key, textToken key, .value]).state after false
        []).Finishes out) :
    (o.state c true []).Finishes out := by
  have scalar := isScalar_textToken depth legible.1
  have flat : ∀ ch ∈ key, isWrittenBreak ch = false := by
    simp only [isSimpleKey, Bool.and_eq_true, Bool.not_eq_true', List.any_eq_false, Bool.not_eq_true]
      at simple
    exact simple.2
  have short : (writeText (depth + 2) key).length ≤ 1024 := by
    rw [writeText_eq_of_flat flat (depth + 2) 0]
    exact legible.2 simple
  -- The written key stays on its line, so the colon is found to belong to it.
  have moved := skip_inline rest (flat_writeText flat).inline
  have colon : (c.skip (writeText (depth + 2) key).length).rest = ':' :: blank :: more := by rw [moved]
  have next := next_inline colon (by decide) (by decide)
  have length := scalar.length_pos
  refine Scanned.finishes_of_step (rest ▸ scalar.startsToken) (scalar.takeNext_key rest free inside)
    (by simp [Scanned.push]) (by rw [moved, rest]; simp; omega) ?_
  refine Scanned.finishes_of_step (by rw [colon]; exact Scanned.startsToken_mark (.inr (.inr rfl)))
    (Scanned.takeNext_keyValue colon free (by rw [moved]) (by rw [moved]; show c.index + _ ≤ _; omega)
      (by rw [moved]; show o.indent ≤ (c.column + _ : Nat); omega))
    (by simp [Scanned.pushAll]) (by rw [next, colon]; simp) ?_
  refine h _ (by rw [next]) ?_
  rw [next, moved]
  show c.column < c.column + _ + 1
  omega

/-- A key behind a question mark is scanned together with the colon on the next line. -/
theorem finishes_longKey {key more : Text} (legible : IsLegible key) (inside : o.indent ≤ c.column)
    (column : c.column = depth)
    (rest : c.rest = '?' :: ' ' :: (writeText (depth + 2) key ++ '\n' :: (spaces depth ++ ':' :: ' ' :: more)))
    (h : ∀ after : Cursor, after.rest = ' ' :: more → after.column = depth + 1 →
      (((o.enter depth .blockMappingStart).pushAll [.key, textToken key, .value]).state after true
        []).Finishes out) :
    (o.state c true []).Finishes out := by
  have scalar := isScalar_textToken depth legible
  have block := Scanned.indent_enter .blockMappingStart inside
  have next := next_inline rest (by decide) (by decide)
  refine Scanned.finishes_of_step (rest ▸ Scanned.startsToken_mark (.inr (.inl rfl)))
    (Scanned.takeNext_keyMark rest inside) (by simp [Scanned.push]) (by rw [next, rest]; simp) ?_
  -- The colon is the first on a line of its own, as far to the left as the question mark.
  let second : Line := ⟨depth, ':' :: ' ' :: more, Scanned.startsToken_mark (.inr (.inr rfl))⟩
  have onLine : c.next.rest = ' ' :: (writeText (depth + 2) key ++ second.written) := rest_next_cons rest
  refine scalar.endsLine.behindSpace onLine ?_ ?_ ?_
  · refine Int.le_of_eq ?_
    rw [Scanned.indent_push, block, column]
  · rw [Scanned.indent_push, block, next]
    show (c.column : Int) ≤ (c.column + 1 : Nat)
    omega
  · intro c' rest' column'
    have last := next_inline rest' (by decide) (by decide)
    refine Scanned.finishes_of_step (by rw [rest']; exact second.starts)
      (Scanned.takeNext_valueMark rest' ?_) (by simp [Scanned.push]) (by rw [last, rest']; simp [second]) ?_
    · show (o.enter c.column .blockMappingStart).indent = _
      rw [block, column, column']
    · rw [column]
      refine h _ (by rw [last]) ?_
      rw [last, column']

mutual

/-- A document behind a mark is scanned to its end. -/
theorem finishes_mark (document : Document) (legible : document.Legible) {c : Cursor} {o : Scanned}
    {line : Line} {out : List Token} {depth : Nat} (block : o.indent = depth)
    (rest : c.rest = ' ' :: (writeAfter .mark depth document ++ line.written)) (column : c.column = depth + 1)
    (left : line.indent ≤ depth) (tail : (o.pushAll (document.tokens false)).Continues line out) :
    (o.state c true []).Finishes out := by
  have next := next_inline rest (by decide) (by decide)
  have nextColumn : c.next.column = depth + 2 := by rw [next, column]
  have nextRest := rest_next_cons rest
  have space : c.rest = ' ' :: c.next.rest := by rw [nextRest, rest]
  match document with
  | .text t =>
    rw [writeAfter] at rest
    exact (isScalar_textToken depth legible).endsLine.behindSpace rest (by omega) (by omega) tail
  | .int n =>
    rw [writeAfter] at rest
    exact (isScalar_ofInt n).endsLine.behindSpace rest (by omega) (by omega) tail
  | .list [] =>
    rw [writeAfter] at rest
    exact Brackets.list.endsLine.behindSpace rest (by omega) (by omega) tail
  | .map [] =>
    rw [writeAfter] at rest
    exact Brackets.map.endsLine.behindSpace rest (by omega) (by omega) tail
  | .list (item :: others) =>
    have written : c.next.rest = writeItems (depth + 2) false (item :: others) ++ line.written := by
      rw [nextRest, writeAfter]
      rfl
    refine Scanned.finishes_space space (written ▸ startsToken_writeItems item others _) ?_
    refine finishes_items _ legible (List.cons_ne_nil _ _) (by omega) written nextColumn (by omega) ?_
    exact Scanned.continues_enter (by omega) (by omega) tail
  | .map (entry :: others) =>
    have written : c.next.rest = writeEntries (depth + 2) false (entry :: others) ++ line.written := by
      rw [nextRest, writeAfter]
      rfl
    refine Scanned.finishes_space space (written ▸ startsToken_writeEntries legible.2.1.1 _ _ _) ?_
    refine finishes_entries _ legible.2 (List.cons_ne_nil _ _) (by omega) written nextColumn (by omega) ?_
    exact Scanned.continues_enter (by omega) (by omega) tail

/-- A document behind a key and its colon is scanned to its end. -/
theorem finishes_key (document : Document) (legible : document.Legible) {c : Cursor} {o : Scanned}
    {line : Line} {out : List Token} {depth : Nat} (block : o.indent = depth)
    (rest : c.rest = writeAfter .key depth document ++ line.written) (column : depth < c.column)
    (left : line.indent ≤ depth) (tail : (o.pushAll (document.tokens true)).Continues line out) :
    (o.state c false []).Finishes out := by
  -- What stays on the line of the key stands behind a space, what does not on lines of its own.
  match document with
  | .text t =>
    rw [writeAfter] at rest
    exact (isScalar_textToken depth legible).endsLine.behindSpace rest (by omega) (by omega) tail
  | .int n =>
    rw [writeAfter] at rest
    exact (isScalar_ofInt n).endsLine.behindSpace rest (by omega) (by omega) tail
  | .list [] =>
    rw [writeAfter] at rest
    exact Brackets.list.endsLine.behindSpace rest (by omega) (by omega) tail
  | .map [] =>
    rw [writeAfter] at rest
    exact Brackets.map.endsLine.behindSpace rest (by omega) (by omega) tail
  | .list (item :: others) =>
    have fresh : ∀ c : Cursor, c.rest = writeItems depth false (item :: others) ++ line.written →
        c.column = depth → (o.state c true []).Finishes out := by
      intro c rest column
      refine finishes_items _ legible (List.cons_ne_nil _ _) (Int.le_of_eq block) rest column left ?_
      rw [Scanned.enter_eq_self block]
      exact tail
    obtain ⟨first, written, -, continues⟩ := Scanned.exists_line (writeItems_fresh item others)
      (startsToken_writeItems item others _) fresh
    refine continues.finishes ?_
    rw [rest, written, writeAfter]
    rfl
  | .map (entry :: others) =>
    have fresh : ∀ c : Cursor, c.rest = writeEntries (depth + 2) false (entry :: others) ++ line.written →
        c.column = depth + 2 → (o.state c true []).Finishes out := by
      intro c rest column
      refine finishes_entries _ legible.2 (List.cons_ne_nil _ _) (by omega) rest column (by omega) ?_
      exact Scanned.continues_enter (by omega) (by omega) tail
    obtain ⟨first, written, -, continues⟩ := Scanned.exists_line (writeEntries_fresh entry others)
      (startsToken_writeEntries legible.2.1.1 entry.2 others _) fresh
    refine continues.finishes ?_
    rw [rest, written, writeAfter]
    rfl

theorem finishes_items (items : List Document) (legible : AllLegible items) (nonEmpty : items ≠ [])
    {c : Cursor} {o : Scanned} {line : Line} {out : List Token} {depth : Nat} (inside : o.indent ≤ depth)
    (rest : c.rest = writeItems depth false items ++ line.written) (column : c.column = depth)
    (left : line.indent ≤ depth)
    (tail : ((o.enter depth .blockSequenceStart).pushAll (itemTokens items)).Continues line out) :
    (o.state c true []).Finishes out := by
  match items with
  | item :: others =>
    have block := Scanned.indent_enter .blockSequenceStart inside
    obtain ⟨first, written, firstLeft, continues⟩ : ∃ first : Line,
        first.written = writeItems depth true others ++ line.written ∧ first.indent ≤ depth ∧
        ((o.enter depth .blockSequenceStart).pushAll (.blockEntry :: item.tokens false)).Continues
          first out := by
      have recurse := finishes_items others legible.2
      cases others with
      | nil => exact ⟨line, rfl, left, by simpa [itemTokens] using tail⟩
      | cons second more =>
        refine Scanned.exists_line (writeItems_fresh second more) (startsToken_writeItems second more _) ?_
        intro c rest column
        refine recurse (List.cons_ne_nil _ _) (Int.le_of_eq block) rest column left ?_
        rw [Scanned.enter_eq_self (o := Scanned.pushAll _ _) block, Scanned.pushAll_append]
        exact tail
    have items : c.rest = '-' :: ' ' :: (writeAfter .mark depth item ++ first.written) := by
      rw [rest, written, writeItems]
      simp [lineStart]
    have next := next_inline items (by decide) (by decide)
    subst column
    refine Scanned.finishes_of_step (items ▸ Scanned.startsToken_mark (.inl rfl))
      (Scanned.takeNext_blockEntry items inside) (by simp [Scanned.push]) (by rw [next, items]; simp) ?_
    refine finishes_mark item legible.1 block (by rw [next]) (by rw [next]) firstLeft ?_
    rw [Scanned.pushAll_cons]
    exact continues

theorem finishes_entries (entries : List (Text × Document)) (legible : EntriesLegible entries)
    (nonEmpty : entries ≠ []) {c : Cursor} {o : Scanned} {line : Line} {out : List Token} {depth : Nat}
    (inside : o.indent ≤ depth) (rest : c.rest = writeEntries depth false entries ++ line.written)
    (column : c.column = depth) (left : line.indent ≤ depth)
    (tail : ((o.enter depth .blockMappingStart).pushAll (entryTokens entries)).Continues line out) :
    (o.state c true []).Finishes out := by
  match entries with
  | (key, item) :: others =>
    have block := Scanned.indent_enter .blockMappingStart inside
    obtain ⟨first, written, firstLeft, continues⟩ : ∃ first : Line,
        first.written = writeEntries depth true others ++ line.written ∧ first.indent ≤ depth ∧
        ((o.enter depth .blockMappingStart).pushAll
          (.key :: textToken key :: .value :: item.tokens (isSimpleKey key))).Continues first out := by
      have recurse := finishes_entries others legible.2.2
      cases others with
      | nil => exact ⟨line, rfl, left, by simpa [entryTokens] using tail⟩
      | cons second more =>
        refine Scanned.exists_line (writeEntries_fresh second more)
          (startsToken_writeEntries legible.2.2.1.1 second.2 more _) ?_
        intro c rest column
        refine recurse (List.cons_ne_nil _ _) (Int.le_of_eq block) rest column left ?_
        rw [Scanned.enter_eq_self (o := Scanned.pushAll _ _) block, Scanned.pushAll_append]
        exact tail
    subst column
    rw [Scanned.pushAll_three] at continues
    cases simple : isSimpleKey key with
    | true =>
      rw [simple] at continues
      obtain ⟨blank, more, value, free⟩ := exists_writeAfter_key item
      have entry : c.rest = writeText (c.column + 2) key ++ ':' :: blank :: (more ++ first.written) := by
        rw [rest, written, writeEntries, if_pos simple, value]
        simp [lineStart]
      refine finishes_simpleKey legible.1 simple inside entry free ?_
      intro after rest deeper
      refine finishes_key item legible.2.1 block ?_ deeper firstLeft continues
      rw [rest, value, List.cons_append]
    | false =>
      rw [simple] at continues
      have entry : c.rest = '?' :: ' ' :: (writeText (c.column + 2) key ++
          '\n' :: (spaces c.column ++ ':' :: ' ' :: (writeAfter .mark c.column item ++ first.written))) := by
        rw [rest, written, writeEntries, if_neg (by rw [simple]; decide)]
        simp [lineStart]
      refine finishes_longKey legible.1.1 inside rfl entry ?_
      intro after rest deeper
      exact finishes_mark item legible.2.1 block rest deeper firstLeft continues

end

/-! ## The tokens of a text -/

/-- The end of the text closes the outermost map. -/
theorem continues_end {tokens : List Token} :
    ((Scanned.start.enter 0 .blockMappingStart).pushAll tokens).Continues ⟨0, [], fun _ h => by cases h⟩
      (.blockMappingStart :: tokens ++ [.blockEnd, .streamEnd]) := by
  have opened : Scanned.start.enter 0 .blockMappingStart =
      ⟨0, [-1], [.blockMappingStart], List.mem_cons_of_mem 0 List.mem_cons_self⟩ := if_pos (by decide)
  intro c rest column
  rw [opened]
  generalize scanned : Scanned.pushAll _ tokens = o
  have indent : o.indent = 0 := by rw [← scanned]; rfl
  have blocks : o.indent :: o.indents = [0] ++ -1 :: [] := by rw [← scanned]; rfl
  have starts : StartsToken c.rest := by
    rw [rest]
    exact fun _ h => by cases h
  have closed : (o.state c true []).closeBlocks (-1) = _ :=
    Scanned.closeBlocks_append [0] blocks (by decide) (Int.le_refl _)
  have taken : (o.state c true []).takeNext = .ok
      ⟨c, 0, -1, [], false, [], .streamEnd :: .blockEnd :: o.tokens, o.tokens.length + 1 + 1⟩ := by
    rw [Scanned.takeNext_eq_takeHere starts (by omega), Lexing.takeHere]
    simp only [Scanned.state_cursor, rest, List.isEmpty_nil, if_true, Lexing.takeEnd, closed]
    rfl
  have finished := Lexing.finishes_of_end taken rfl
  rw [← scanned] at finished ⊢
  simpa [Scanned.pushAll] using finished

/-- The tokens of a written map. -/
theorem tokens_write (entry : Text × Document) (rest : List (Text × Document))
    (legible : (Document.map (entry :: rest)).Legible) : Yaml.tokens (write (.map (entry :: rest))) =
      ((Document.map (entry :: rest)).tokens false ++ [.streamEnd], none) := by
  let line : Line := ⟨0, [], fun _ h => by cases h⟩
  have written : write (.map (entry :: rest)) = writeEntries 0 false (entry :: rest) ++ line.written := by
    rw [write, writeAfter]
    rfl
  have noMark : (write (.map (entry :: rest))).head? ≠ some '\ufeff' := by
    intro mark
    have := isShown_write (.map (entry :: rest)) '\ufeff' (List.mem_of_mem_head? mark)
    revert this
    decide
  have starts : StartsToken (write (.map (entry :: rest))) := by
    rw [written]
    exact startsToken_writeEntries legible.2.1.1 entry.2 rest _
  have finishes := finishes_entries _ legible.2 (List.cons_ne_nil _ _) (o := .start)
    (c := .start (write (.map (entry :: rest)))) (by decide) written rfl
    (Nat.le_refl 0) continues_end
  have self : (Scanned.start.state (.start (write (.map (entry :: rest)))) true []).ahead =
      Scanned.start.state (.start (write (.map (entry :: rest)))) true [] := Lexing.ahead_of_starts starts
  have run := finishes (write (.map (entry :: rest))).length.succ (by rw [self]; exact Nat.lt_succ_self _)
  rw [Yaml.tokens]
  simp only [if_neg noMark]
  refine run.trans ?_
  rw [tokens]
  simp

end Document

end FixedExtract.Yaml
