import FixedExtract.Expression.Evaluation
import FixedExtract.Proofs.Regex.Sequence
import FixedExtract.Regex.Parser
/-!
# Reading item by item

Outside of groups a pattern is read from left to right, and what has been read is only looked at again when a
repetition follows. So a piece of a pattern is read as the same items wherever it stands, as long as what follows it
is not a mark of how a repetition is tried, and pieces in a row are read as their items in a row.

Few characters have a meaning of their own outside of sets and groups, and those that may have one can be escaped. A
pattern of characters that stand for themselves is read as one literal for each of them, and it matches the text that
is written like it and no other.
-/

namespace FixedExtract.Regex

/-! ## What follows a repetition -/

/-- May the token follow a repetition without changing how it is tried? -/
def Token.isFresh : Token → Bool
  | .plain c => c ≠ '?' && c ≠ '+'
  | .escaped _ => true
  | .broken => false

/-- Tokens that change nothing in what is read in front of them. -/
def Fresh (ts : List Token) : Prop := ∀ t ∈ ts.head?, t.isFresh = true

variable {ts more : List Token} {items others : List Item} {item : Item}

theorem fresh_nil : Fresh [] := nofun

theorem Fresh.append (front : Fresh ts) (back : Fresh more) : Fresh (ts ++ more) := by
  cases ts with
  | nil => exact back
  | cons t ts => exact front

theorem Fresh.readMode_eq (fresh : Fresh ts) : readMode ts = (.greedy, ts) := by
  unfold readMode
  split
  · cases fresh _ rfl
  · cases fresh _ rfl
  · rfl

theorem Fresh.cases (fresh : Fresh ts) :
    ts = [] ∨ (∃ c more, ts = .plain c :: more) ∨ ∃ c more, ts = .escaped c :: more := by
  match ts with
  | [] => exact .inl rfl
  | .plain c :: more => exact .inr (.inl ⟨c, more, rfl⟩)
  | .escaped c :: more => exact .inr (.inr ⟨c, more, rfl⟩)
  | .broken :: _ => cases fresh _ rfl

/-! ## Items -/

/-- The tokens are read in one go, and as one item. -/
def ReadsItem (ts : List Token) (item : Item) : Prop :=
  ∀ (fuel : Nat) (place : Place) (done : List Item) (context : Context) (rest : List Token),
    readSequence (fuel + 1) place false done context (ts ++ rest) =
      readSequence fuel place false (item :: done) context rest

/-- The tokens are read as these items, whatever has been read before them. -/
structure ReadsAs (ts : List Token) (items : List Item) : Prop where
  fresh : Fresh ts
  reads : ∀ {fuel : Nat} {place : Place} {done : List Item} {context : Context} {rest : List Token}, Fresh rest →
    (ts ++ rest).length < fuel →
    ∃ less, rest.length < less ∧
      readSequence fuel place false done context (ts ++ rest) =
        readSequence less place false (items.reverse ++ done) context rest

namespace ReadsAs

theorem nil : ReadsAs [] [] where
  fresh := fresh_nil
  reads _ enough := ⟨_, enough, rfl⟩

theorem append (front : ReadsAs ts items) (back : ReadsAs more others) :
    ReadsAs (ts ++ more) (items ++ others) where
  fresh := front.fresh.append back.fresh
  reads {fuel place done context rest} fresh enough := by
    rw [List.append_assoc] at enough ⊢
    -- What follows the front is fresh even where the back is empty.
    obtain ⟨less, left, first⟩ := front.reads (back.fresh.append fresh) enough
    obtain ⟨least, left, second⟩ := back.reads fresh left
    refine ⟨least, left, ?_⟩
    rw [first, second, List.reverse_append, List.append_assoc]

theorem flatMap {α : Type} {list : List α} {tokens : α → List Token} {read : α → List Item}
    (h : ∀ a ∈ list, ReadsAs (tokens a) (read a)) : ReadsAs (list.flatMap tokens) (list.flatMap read) := by
  induction list with
  | nil => exact nil
  | cons a list ih =>
    rw [List.flatMap_cons, List.flatMap_cons]
    exact (h a List.mem_cons_self).append (ih fun b member => h b (List.mem_cons_of_mem a member))

end ReadsAs

theorem ReadsItem.readsAs {t : Token} (h : ReadsItem (t :: ts) item) (fresh : t.isFresh = true) :
    ReadsAs (t :: ts) [item] where
  fresh := by
    rintro _ ⟨⟩
    exact fresh
  reads {fuel place done context rest} _ enough := by
    rw [List.cons_append, List.length_cons, List.length_append] at enough
    obtain ⟨fuel, rfl⟩ := Nat.exists_eq_add_one_of_ne_zero (Nat.ne_of_gt (Nat.zero_lt_of_lt enough))
    exact ⟨fuel, by omega, h ..⟩

/-- The marks of a repetition repeat the item in front of them. -/
theorem readSequence_repetition {c : Char} {least : Nat} {most : Option Nat} (mark : c ∈ ['*', '+', '?', '\x7b'])
    (bounds : readRepetition c (ts ++ more) = .ok (some ((least, most), more))) (repeatable : isRepeatable item = true)
    (apart : unwrapGroups [item] = [item]) (fresh : Fresh more) {fuel : Nat} {place : Place} {done : List Item}
    {context : Context} :
    readSequence (fuel + 1) place false (item :: done) context (.plain c :: (ts ++ more)) =
      readSequence fuel place false (.repeated .greedy least most [item] :: done) context more := by
  have all : ∀ d ∈ ['*', '+', '?', '\x7b'], ¬(d = '|' ∨ d = ')') ∧ d ≠ '[' ∧ d ≠ '(' := by simp
  obtain ⟨ends, bracket, parenthesis⟩ := all c mark
  rw [readSequence, if_neg ends, Bool.false_and, if_neg Bool.false_ne_true, Bool.false_and,
    if_neg Bool.false_ne_true, if_neg bracket, if_neg parenthesis, bounds]
  dsimp only [bind, Except.bind]
  rw [if_pos repeatable, fresh.readMode_eq, apart]

/-- An item with the marks of a repetition is read as the repetition of the item. -/
theorem ReadsItem.repeated {t : Token} {c : Char} {least : Nat} {most : Option Nat} (h : ReadsItem (t :: ts) item)
    (fresh : t.isFresh = true) (mark : c ∈ ['*', '+', '?', '\x7b'])
    (bounds : ∀ {rest}, Fresh rest → readRepetition c (more ++ rest) = .ok (some ((least, most), rest)))
    (repeatable : isRepeatable item = true) (apart : unwrapGroups [item] = [item]) :
    ReadsAs (t :: ts ++ .plain c :: more) [.repeated .greedy least most [item]] where
  fresh := by
    rintro _ ⟨⟩
    exact fresh
  reads {fuel place done context rest} behind enough := by
    rw [List.append_assoc, List.cons_append] at enough ⊢
    rw [List.cons_append, List.length_cons, List.length_append, List.length_cons, List.length_append] at enough
    -- One step for the item, and one for the marks.
    obtain ⟨fuel, rfl⟩ := Nat.exists_eq_add_of_le' (show 2 ≤ fuel by omega)
    refine ⟨fuel, by omega, (h ..).trans ?_⟩
    exact readSequence_repetition mark (bounds behind) repeatable apart behind

/-! ## Patterns -/

/-- The items of a sequence stay as they are when none of them is a group that only holds others together. -/
theorem unwrapGroups_eq_self (h : ∀ item ∈ items, unwrapGroups [item] = [item]) : unwrapGroups items = items := by
  induction items with
  | nil => rfl
  | cons item items ih =>
    have first := h item List.mem_cons_self
    have others := ih fun other member => h other (List.mem_cons_of_mem item member)
    rw [unwrapGroups, List.flatMap_singleton] at first
    rw [unwrapGroups] at others ⊢
    rw [List.flatMap_cons, first, others, List.singleton_append]

/-- The flags of a pattern that sets none. -/
def plainFlags : Flags := { Flags.none with unicode := true }

/-- A pattern that is read as items in a row is the sequence of these items. -/
theorem ReadsAs.read {source : Text} (h : ReadsAs (tokensOf source) items)
    (apart : ∀ item ∈ items, unwrapGroups [item] = [item]) : Pattern.read source = .ok ⟨plainFlags, items⟩ := by
  -- One step of the fuel is left for the end of the pattern.
  have sequence : ∀ fuel, (tokensOf source).length < fuel →
      readSequence fuel .start false [] .start (tokensOf source) = .ok (items, .start, []) := by
    intro fuel enough
    rw [← List.append_nil (tokensOf source)] at enough ⊢
    obtain ⟨less, left, read⟩ := h.reads fresh_nil enough
    obtain ⟨less, rfl⟩ := Nat.exists_eq_add_one_of_ne_zero (Nat.ne_of_gt left)
    rw [read, List.append_nil]
    show Except.ok (unwrapGroups items.reverse.reverse, Context.start, []) = _
    rw [List.reverse_reverse, unwrapGroups_eq_self apart]
  rw [Pattern.read]
  dsimp only
  rw [readAlternatives, sequence _ (by omega)]
  simp [bind, Except.bind, ofAlternatives, Context.start, Flags.none, plainFlags]

/-! ## Characters that stand for themselves -/

/-- The characters that do not stand for themselves. -/
def syntaxChars : List Char := ['\\', '.', '^', '$', '|', '(', ')', '[', '*', '+', '?', '\x7b']

theorem tokensOf_plain {c : Char} (h : c ≠ '\\') (rest : Text) : tokensOf (c :: rest) = .plain c :: tokensOf rest := by
  rw [tokensOf]
  · rintro _ _ rfl
    exact absurd rfl h
  · rintro rfl
    exact absurd rfl h

section
variable {source : Text}

theorem tokensOf_ordinary (ordinary : ∀ c ∈ source, c ∉ syntaxChars) : tokensOf source = source.map .plain := by
  induction source with
  | nil => rfl
  | cons c rest ih =>
    have backslash : c ≠ '\\' := ne_of_mem_of_not_mem (by decide) (ordinary c List.mem_cons_self) |>.symm
    rw [tokensOf_plain backslash, ih fun d hd => ordinary d (List.mem_cons_of_mem c hd), List.map_cons]

/-- A character that stands for itself is read as a literal. -/
theorem readsItem_ordinary {c : Char} (ordinary : c ∉ syntaxChars) : ReadsItem [.plain c] (.literal c.toNat) := by
  intro fuel place done context rest
  have apart : ∀ d ∈ syntaxChars, c ≠ d := fun d member same => ordinary (same ▸ member)
  have item : plainItem c = .literal c.toNat := by
    unfold plainItem
    rw [if_neg (apart _ (by decide)), if_neg (apart _ (by decide)), if_neg (apart _ (by decide))]
  have repetition : readRepetition c rest = .ok none := by
    unfold readRepetition
    rw [if_neg (apart _ (by decide)), if_neg (apart _ (by decide)), if_neg (apart _ (by decide)),
      if_neg (apart _ (by decide))]
  have ends : ¬(c = '|' ∨ c = ')') := fun h => h.elim (apart _ (by decide)) (apart _ (by decide))
  rw [List.singleton_append, readSequence, if_neg ends, Bool.false_and, if_neg Bool.false_ne_true, Bool.false_and,
    if_neg Bool.false_ne_true, if_neg (apart _ (by decide)), if_neg (apart _ (by decide)), repetition, item]
  rfl

theorem readsAs_ordinary {c : Char} (ordinary : c ∉ syntaxChars) : ReadsAs [.plain c] [.literal c.toNat] := by
  have question : c ≠ '?' := fun same => ordinary (same ▸ by decide)
  have plus : c ≠ '+' := fun same => ordinary (same ▸ by decide)
  exact (readsItem_ordinary ordinary).readsAs (by simp [Token.isFresh, question, plus])

/-- The literals of a text. -/
def literals (source : Text) : List Item := source.map fun c => .literal c.toNat

theorem literals_eq_flatMap (source : Text) : literals source = source.flatMap fun c => [.literal c.toNat] :=
  List.map_eq_flatMap

theorem unwrapGroups_of_mem_literals (source : Text) (h : item ∈ literals source) : unwrapGroups [item] = [item] := by
  obtain ⟨c, -, rfl⟩ := List.mem_map.1 h
  rfl

theorem read_ordinary (ordinary : ∀ c ∈ source, c ∉ syntaxChars) :
    Pattern.read source = .ok ⟨plainFlags, literals source⟩ := by
  have reads : ReadsAs (tokensOf source) (literals source) := by
    rw [tokensOf_ordinary ordinary, List.map_eq_flatMap, literals_eq_flatMap]
    exact .flatMap fun c member => readsAs_ordinary (ordinary c member)
  exact reads.read fun _ => unwrapGroups_of_mem_literals source

end

/-! ## Escaped characters -/

theorem ne_of_elem_special {c d : Char} (plain : specialChars.elem c = false) (special : specialChars.elem d = true) :
    c ≠ d := by
  rintro rfl
  rw [plain] at special
  cases special

theorem ordinary_of_plain {c : Char} (plain : specialChars.elem c = false) : c ∉ syntaxChars := by
  have special : syntaxChars.all specialChars.elem = true := by decide
  exact fun member => ne_of_elem_special plain (List.all_eq_true.1 special c member) rfl

/-- The token of a character that stands for itself. -/
def literalToken (c : Char) : Token := if specialChars.elem c then .escaped c else .plain c

theorem tokensOf_escape_append (c : Char) (rest : Text) :
    tokensOf (escape c ++ rest) = literalToken c :: tokensOf rest := by
  unfold escape literalToken
  split
  · rfl
  · next plain => exact tokensOf_plain (ne_of_elem_special (Bool.eq_false_iff.2 plain) (by decide)) rest

/-- The characters of a text, each standing for itself. -/
def escaped (text : Text) : Text := text.flatMap escape

theorem tokensOf_escaped_append (text rest : Text) :
    tokensOf (escaped text ++ rest) = text.map literalToken ++ tokensOf rest := by
  induction text with
  | nil => rfl
  | cons c text ih =>
    rw [escaped, List.flatMap_cons, List.append_assoc, tokensOf_escape_append, ← escaped, ih, List.map_cons,
      List.cons_append]

theorem readsItem_escaped {c : Char} (special : specialChars.elem c = true) :
    ReadsItem [.escaped c] (.literal c.toNat) := by
  intro fuel place done context rest
  have all : ∀ d ∈ specialChars, anchorEscape? d = none ∧ categoryEscape? d = none ∧
      (controlEscape? d).getD d.toNat = d.toNat ∧ d ≠ '0' ∧ Text.isAsciiDigit d = false ∧ hexWidth? d = none ∧
      d ≠ 'N' ∧ Text.isAsciiLetter d = false :=
    -- Going through the list, and not through all characters.
    @of_decide_eq_true _ (List.decidableBAll _ specialChars) rfl
  obtain ⟨anchor, category, control, zero, digit, hex, name, letter⟩ := all c (List.elem_iff.1 special)
  have escape : readEscape c rest = .ok (.item (.literal c.toNat), rest) := by
    unfold readEscape codeEscape
    rw [anchor, category, hex, if_neg zero, if_neg (by simp [digit]), if_neg name, if_neg (by simp [digit, letter])]
    cases known : controlEscape? c with
    | none => rfl
    | some code =>
      rw [known] at control
      cases control
      rfl
  rw [List.singleton_append, readSequence, escape]
  rfl

theorem readsAs_literalToken (c : Char) : ReadsAs [literalToken c] [.literal c.toNat] := by
  unfold literalToken
  split
  · next special => exact (readsItem_escaped special).readsAs rfl
  · next plain => exact readsAs_ordinary (ordinary_of_plain (Bool.eq_false_iff.2 plain))

/-- Every text is read as its literals when it is escaped. -/
theorem readsAs_escaped (text : Text) : ReadsAs (tokensOf (escaped text)) (literals text) := by
  rw [← List.append_nil (escaped text), tokensOf_escaped_append, tokensOf, List.append_nil, List.map_eq_flatMap,
    literals_eq_flatMap]
  exact .flatMap fun c _ => readsAs_literalToken c

/-! ## Matching literals -/

/-- The test for one character. -/
def testOfLiteral (c : Char) : Test := .equal .none false c.toNat

theorem holds_testOfLiteral (c d : Char) : (testOfLiteral c).holds d = true ↔ d = c := by
  simp [testOfLiteral, Test.holds, Fold.lower, Char.toNat_inj]

theorem stepsOf_literals (source : Text) :
    stepsOf plainFlags (literals source) = source.map fun c => .test (testOfLiteral c) := by
  induction source with
  | nil => rfl
  | cons c rest ih =>
    rw [literals, List.map_cons, List.map_cons, stepsOf, ← literals, ih]
    rfl

theorem isTaking_of_mem_literals (source : Text) {step : Step} (h : step ∈ stepsOf plainFlags (literals source)) :
    step.isTaking = true := by
  rw [stepsOf_literals] at h
  obtain ⟨c, -, rfl⟩ := List.mem_map.1 h
  rfl

/-- The steps for a text spell just this text. -/
theorem spelledBy_literals (source : Text) {text : Text} :
    SpelledBy Step.Takes (stepsOf plainFlags (literals source)) text ↔ text = source := by
  rw [stepsOf_literals, spelledBy_map]
  induction source generalizing text with
  | nil => exact spelledBy_nil
  | cons c rest ih =>
    rw [spelledBy_cons]
    simp only [ih, Step.Takes, holds_testOfLiteral]
    constructor
    · rintro ⟨_, _, rfl, ⟨_, rfl, rfl⟩, rfl⟩
      rfl
    · rintro rfl
      exact ⟨[c], rest, rfl, ⟨c, rfl, rfl⟩, rfl⟩

/-- A pattern of characters that stand for themselves matches itself and nothing else. -/
theorem find_literals (source text : Text) :
    (Pattern.find ⟨plainFlags, literals source⟩ text = .matched ↔ text = source) ∧
      Pattern.find ⟨plainFlags, literals source⟩ text ≠ .crossed := by
  have taking : ∀ step ∈ Pattern.program ⟨plainFlags, literals source⟩, step.isTaking = true :=
    fun _ => isTaking_of_mem_literals source
  have found := Pattern.find_of_isTaking taking text
  rwa [Pattern.program, spelledBy_literals] at found

end FixedExtract.Regex
