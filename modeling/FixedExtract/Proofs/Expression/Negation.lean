import FixedExtract.Proofs.Expression.Spelling
import Mathlib.Data.Set.List
/-!
# Negated tests

A negated test is accepted wherever the test is, and it holds for the records for which the test does not. This is so
whatever the operands are: a call stands in the place of an operand too, but no test goes on behind one, negated or
not. Only `IS EMPTY` has no negated form.
-/

namespace FixedExtract.Expression

open Grammar

variable {text behind x y : Text} {tree : Tree} {ts us ws : List Token} {record : Record} {held : Bool}

/-! ## What is evaluated is derived -/

theorem denotes_strip_iff : Denotes (Text.strip text) tree ↔ Denotes text tree := by
  constructor
  · intro h
    obtain ⟨lead, trail, whole, leadSpaces, trailSpaces⟩ := Text.exists_strip text
    obtain ⟨ts, scanned, derived⟩ := h.scanned (0 + lead.length)
    refine ⟨0, ts, ?_, derived⟩
    rw [whole, scan_spaces_append leadSpaces, scan_append_spaces trailSpaces, scanned]
  · exact Denotes.strip

/-- A text is evaluated when it denotes a tree, and to what the tree is evaluated to. -/
theorem evaluate_eq_ok_iff :
    Layout.evaluate record text = .ok held ↔ ∃ node : Node, Denotes text node.tree ∧ node.holds record = held := by
  unfold Layout.evaluate
  rw [map_eq_ok_iff]
  refine exists_congr fun node => and_congr_left fun _ => ?_
  rw [← denotes_strip_iff, denotes_iff]
  constructor
  · intro parsed
    exact ⟨node, parsed, rfl⟩
  · rintro ⟨other, parsed, same⟩
    rw [parsed, Node.eq_of_tree_eq same]

/-! ## Operands as the grammar has them -/

/-- The tokens of an operand are a single one or a call of a method on a field, which may have an operand for its
argument. -/
inductive Phrase : List Token → Prop where
  | single {t : Token} : t.kind ∈ [TokenKind.string, .number, .identifier] → Phrase [t]
  | property {field dot name opening closing : Token} :
      field.kind = .identifier → dot.kind = .dot → name.kind = .identifier → opening.kind = .leftParen →
      closing.kind = .rightParen → Phrase [field, dot, name, opening, closing]
  | search {field dot name opening closing : Token} {argument : List Token} :
      field.kind = .identifier → dot.kind = .dot → name.kind = .identifier → opening.kind = .leftParen →
      Phrase argument → closing.kind = .rightParen →
      Phrase (field :: dot :: name :: opening :: (argument ++ [closing]))

/-- The text is that of an operand. -/
def IsOperand (x : Text) : Prop := ∃ ts, tokens x = .ok ts ∧ Phrase ts

theorem Phrase.map {f : Token → Token} (keeps : Keeps f) (phrase : Phrase ts) : Phrase (ts.map f) := by
  induction phrase with
  | single kind => exact .single ((keeps.kind _).symm ▸ kind)
  | property field dot name opening closing =>
    exact .property ((keeps.kind _).trans field) ((keeps.kind _).trans dot) ((keeps.kind _).trans name)
      ((keeps.kind _).trans opening) ((keeps.kind _).trans closing)
  | search field dot name opening _ closing ih =>
    simp only [List.map_cons, List.map_append, List.map_nil]
    exact .search ((keeps.kind _).trans field) ((keeps.kind _).trans dot) ((keeps.kind _).trans name)
      ((keeps.kind _).trans opening) ih ((keeps.kind _).trans closing)

/-- The tokens are those of an operand, and all that the text has. -/
def AreOperand (x : Text) (ts : List Token) : Prop := Phrase ts ∧ ∃ position, scan position x = .ok ts

theorem IsOperand.scans (operand : IsOperand x) : Scans x (AreOperand x) := by
  intro position
  obtain ⟨ts, front, phrase⟩ := operand
  have scanned := scan_moved position (tokens_eq_ok_iff.1 front)
  rw [Nat.zero_add] at scanned
  exact ⟨_, scanned, phrase.map (keeps_moved position), position, scanned⟩

/-- No token divides a disjunction or a conjunction. -/
def Undivided (ts : List Token) : Prop := ∀ t ∈ ts, t.kind ∉ [TokenKind.or, .and]

theorem Undivided.append (h : Undivided us) (also : Undivided ws) : Undivided (us ++ ws) :=
  fun t ht => (List.mem_append.1 ht).elim (h t) (also t)

theorem undivided_of_kind {t : Token} {kind : TokenKind} (h : t.kind = kind) (other : kind ∉ [TokenKind.or, .and]) :
    Undivided [t] := by
  intro u hu
  rwa [List.mem_singleton.1 hu, h]

/-- An operand of several tokens has a dot behind the first one and a parenthesis at the end. -/
theorem Phrase.cases (phrase : Phrase ts) :
    (∃ t, ts = [t]) ∨ ∃ field dot name opening inside closing, dot.kind = .dot ∧ closing.kind = .rightParen ∧
      ts = field :: dot :: name :: opening :: (inside ++ [closing]) := by
  cases phrase with
  | single => exact .inl ⟨_, rfl⟩
  | property _ dot _ _ closing => exact .inr ⟨_, _, _, _, [], _, dot, closing, rfl⟩
  | search _ dot _ _ _ closing => exact .inr ⟨_, _, _, _, _, _, dot, closing, rfl⟩

theorem Phrase.head (phrase : Phrase ts) :
    ∃ t us, ts = t :: us ∧ t.kind ∈ [TokenKind.string, .number, .identifier] := by
  cases phrase with
  | single kind => exact ⟨_, _, rfl, kind⟩
  | property field => exact ⟨_, _, rfl, by simp [field]⟩
  | search field => exact ⟨_, _, rfl, by simp [field]⟩

theorem Phrase.undivided (phrase : Phrase ts) : Undivided ts := by
  induction phrase with
  | @single t kind =>
    simp only [List.mem_cons, List.not_mem_nil, or_false] at kind
    rcases kind with kind | kind | kind <;> exact undivided_of_kind kind (by decide)
  | property field dot name opening closing => simp [Undivided, field, dot, name, opening, closing]
  | search field dot name opening _ closing ih =>
    simp only [Undivided, List.forall_mem_cons]
    exact ⟨by simp [field], by simp [dot], by simp [name], by simp [opening],
      ih.append (undivided_of_kind closing (by decide))⟩

theorem Grammar.Atom.onLeft {t : Token} {fallback : Bool} {operand : Operand} (atom : Atom fallback t operand) :
    ∃ unmarked, Atom false t unmarked := by
  cases atom with
  | string kind => exact ⟨_, .string kind⟩
  | number kind written read => exact ⟨_, .number kind written read⟩
  | null kind isNull => exact ⟨_, .null kind isNull⟩
  | isTrue kind word => exact ⟨_, .isTrue kind word⟩
  | isFalse kind word => exact ⟨_, .isFalse kind word⟩
  | field field => exact ⟨_, .field field⟩

/-- A token that stands for an operand, whatever place it stands in, makes its text a spelling. -/
theorem exists_spelling {position : Nat} {a : Token} {fallback : Bool} {operand : Operand}
    (scanned : scan position x = .ok [a]) (atom : Atom fallback a operand) : ∃ s : Spelling, s.text = x := by
  -- The token is moved back to the front of the text.
  obtain ⟨us, front⟩ := exists_scan scanned 0
  have moved := scan_moved position front
  rw [Nat.zero_add, scanned] at moved
  obtain ⟨u, rfl, rfl⟩ := List.map_eq_singleton_iff.1 (Except.ok.inj moved).symm
  have back := atom.map (keeps_movedBack position)
  rw [movedBack_moved] at back
  obtain ⟨_, onLeft⟩ := back.onLeft
  exact ⟨.ofToken front onLeft, rfl⟩

/-! ## Tests by their first tokens -/

/-- Without an operator between its tokens, an expression is a test. -/
theorem test_of_derives {t : Token} (derived : Derives (t :: ts) tree) (undivided : Undivided (t :: ts))
    (head : t.kind ∈ [TokenKind.string, .number, .identifier]) : Test (t :: ts) tree := by
  obtain ⟨children, disjunction, rfl⟩ := derived
  generalize whole : t :: ts = all at disjunction undivided
  cases disjunction with
  | @more _ _ or _ _ _ kind => exact absurd kind (fun h => undivided or (by simp) (by simp [h]))
  | one conjunction =>
    cases conjunction with
    | @more _ _ and _ _ _ kind => exact absurd kind (fun h => undivided and (by simp) (by simp [h]))
    | one factor =>
      cases factor with
      | test test => exact whole ▸ test
      | not bang =>
        cases whole
        rw [bang] at head
        exact absurd head (by decide)
      | group opening =>
        cases whole
        rw [opening] at head
        exact absurd head (by decide)

theorem not_keyword {t : Token} {kind : TokenKind} (h : t.kind = kind) (other : kind ≠ .identifier) {word : Text} :
    ¬Keyword word t := fun keyword => other (h.symm.trans keyword.1)

theorem keyword_leftUnique : Relator.LeftUnique Keyword := fun _ _ _ h also => h.2.symm.trans also.2

/-- A test with a dot for its second token is a call. -/
theorem Grammar.Test.of_dot {field dot : Token} (test : Test (field :: dot :: ts) tree) (isDot : dot.kind = .dot) :
    (∃ name opening closing, ts = [name, opening, closing]) ∨
      ∃ name opening part closing, ts = [name, opening, part, closing] ∧ part.kind ≠ .rightParen := by
  -- The second token of any other test is an operator or a keyword.
  have notWord : ∀ {word : Text}, ¬Keyword word dot := not_keyword isDot (by decide)
  cases test with
  | property => exact .inl ⟨_, _, _, rfl⟩
  | search _ _ _ _ _ part =>
    refine .inr ⟨_, _, _, _, rfl, fun kind => ?_⟩
    have operandKind := atom_kind part
    rw [kind] at operandKind
    exact absurd operandKind (by decide)
  | compare _ kind => exact absurd (isDot.symm.trans kind) (by decide)
  | oneOf _ word => exact absurd word notWord
  | notOneOf _ word => exact absurd word notWord
  | between _ word => exact absurd word notWord
  | like _ word => exact absurd word notWord
  | is _ word => exact absurd word notWord

/-- A test does not go on behind a call. -/
theorem Grammar.Test.single {w : Token} (test : Test (us ++ w :: ws) tree) (phrase : Phrase us) :
    ∃ a, us = [a] := by
  rcases phrase.cases with single | ⟨field, dot, name, opening, inside, closing, isDot, isClosing, rfl⟩
  · exact single
  · have call : Test (field :: dot :: name :: opening :: (inside ++ closing :: w :: ws)) tree := by
      simpa using test
    exfalso
    -- A call without an argument is too short, and the argument of a call is no parenthesis.
    rcases call.of_dot isDot with ⟨_, _, _, whole⟩ | ⟨_, _, part, _, whole, notClosing⟩
    · have lengths := congrArg List.length whole
      simp at lengths
      omega
    · match inside, whole with
      | [], whole =>
        simp at whole
        rw [← whole.2.2.1] at notClosing
        exact notClosing isClosing
      | _ :: inside, whole =>
        have lengths := congrArg List.length whole
        simp at lengths
        omega

theorem Grammar.Test.of_operator {a op : Token} (test : Test (a :: op :: ts) tree) (isOperator : op.kind = .operator) :
    ∃ b left right, ts = [b] ∧ Atom false a left ∧ Atom true b right := by
  have notWord : ∀ {word : Text}, ¬Keyword word op := not_keyword isOperator (by decide)
  cases test with
  | compare left _ _ right => exact ⟨_, _, _, rfl, left, right⟩
  | property _ dot => exact absurd (isOperator.symm.trans dot) (by decide)
  | search _ dot => exact absurd (isOperator.symm.trans dot) (by decide)
  | oneOf _ word => exact absurd word notWord
  | notOneOf _ word => exact absurd word notWord
  | between _ word => exact absurd word notWord
  | like _ word => exact absurd word notWord
  | is _ word => exact absurd word notWord

theorem Grammar.Test.of_in {a word : Token} (test : Test (a :: word :: ts) tree) (isIn : Keyword "IN" word) :
    ∃ left options, Atom false a left ∧ Parenthesized (Options · options) ts := by
  cases test with
  | oneOf left _ opening options closing => exact ⟨_, _, left, _, _, _, rfl, opening, options, closing⟩
  | property _ dot => exact absurd isIn (not_keyword dot (by decide))
  | search _ dot => exact absurd isIn (not_keyword dot (by decide))
  | compare _ operator => exact absurd isIn (not_keyword operator (by decide))
  | notOneOf _ negation => exact absurd (keyword_leftUnique isIn negation) (by decide)
  | between _ between => exact absurd (keyword_leftUnique isIn between) (by decide)
  | like _ like => exact absurd (keyword_leftUnique isIn like) (by decide)
  | is _ is => exact absurd (keyword_leftUnique isIn is) (by decide)

theorem Grammar.Test.of_is {a word : Token} (test : Test (a :: word :: ts) tree) (isIs : Keyword "IS" word) :
    ∃ left p, Atom false a left ∧ List.Forall₂ Keyword (propertyWords p) ts := by
  cases test with
  | is left _ words => exact ⟨_, _, left, words⟩
  | property _ dot => exact absurd isIs (not_keyword dot (by decide))
  | search _ dot => exact absurd isIs (not_keyword dot (by decide))
  | compare _ operator => exact absurd isIs (not_keyword operator (by decide))
  | oneOf _ isIn => exact absurd (keyword_leftUnique isIs isIn) (by decide)
  | notOneOf _ negation => exact absurd (keyword_leftUnique isIs negation) (by decide)
  | between _ between => exact absurd (keyword_leftUnique isIs between) (by decide)
  | like _ like => exact absurd (keyword_leftUnique isIs like) (by decide)

/-! ## Operands of tests that are accepted -/

theorem Grammar.Keyword.undivided {word : Text} {t : Token} (h : Keyword word t) : t.kind ∉ [TokenKind.or, .and] := by
  rw [h.1]
  decide

theorem undivided_of_keywords {words : List Text} (h : List.Forall₂ Keyword words ts) : Undivided ts := by
  induction h with
  | nil => nofun
  | cons keyword _ ih => exact List.forall_mem_cons.2 ⟨keyword.undivided, ih⟩

theorem Parenthesized.undivided {sort : List Token → Prop} (h : Parenthesized sort ts)
    (inside : ∀ us, sort us → Undivided us) : Undivided ts := by
  obtain ⟨opening, us, closing, rfl, openingKind, hu, closingKind⟩ := h
  exact List.forall_mem_cons.2
    ⟨by simp [openingKind], (inside us hu).append (undivided_of_kind closingKind (by decide))⟩

theorem undivided_then {first : Token → Prop} {sort : List Token → Prop}
    (head : ∀ t, first t → t.kind ∉ [TokenKind.or, .and]) (tail : ∀ ts, sort ts → Undivided ts) :
    ∀ ts, Then first sort ts → Undivided ts
  | _ :: _, ⟨ht, hts⟩ => List.forall_mem_cons.2 ⟨head _ ht, tail _ hts⟩

/-- When an operand and more behind it denote something, they are a test whose operand is a single token. -/
theorem exists_test {first : Token → Prop} {sort : List Token → Prop} (operand : IsOperand x)
    (after : Scans behind (Then first sort)) (undivided : ∀ ts, Then first sort ts → Undivided ts)
    (denotes : Denotes (x ++ ' ' :: behind) tree) :
    ∃ position a w ws, scan position x = .ok [a] ∧ first w ∧ sort ws ∧ Test (a :: w :: ws) tree := by
  obtain ⟨ts, scanned, derived⟩ := denotes.scanned 0
  obtain ⟨_, again, us, vs, rfl, ⟨phrase, position, alone⟩, sorted⟩ :=
    operand.scans.append (seam_cons breaks_space _) after.space 0
  cases scanned.symm.trans again
  -- Nothing divides the tokens, so that they are a test, and a test does not go on behind a call.
  have whole : Undivided (us ++ vs) := phrase.undivided.append (undivided vs sorted)
  obtain ⟨t, others, rfl, kind⟩ := phrase.head
  have test : Test ((t :: others) ++ vs) tree := test_of_derives derived whole kind
  match vs, sorted with
  | w :: ws, ⟨hw, hs⟩ =>
    obtain ⟨a, single⟩ := test.single phrase
    rw [single] at alone
    cases single
    exact ⟨position, _, w, ws, alone, hw, hs, test⟩

/-- Where `==` is accepted, it stands between two operands of one token each. -/
theorem spelled_of_equal (left : IsOperand x) (right : IsOperand y)
    (accepted : Layout.evaluate record (x ++ " == " ++ y) = .ok held) :
    ∃ s t : Spelling, s.text = x ∧ t.text = y := by
  have words : x ++ " == " ++ y = x ++ ' ' :: ("==" ++ ' ' :: y) := by simp
  obtain ⟨node, denotes, -⟩ := evaluate_eq_ok_iff.1 accepted
  rw [words] at denotes
  obtain ⟨_, a, op, _, scanned, ⟨kind, -⟩, ⟨-, _, behindScanned⟩, test⟩ :=
    exists_test left ((isToken_symbol .equal).before right.scans)
      (undivided_then (fun t h => by rw [h.1]; decide) fun ts h => h.1.undivided) denotes
  obtain ⟨b, _, _, rfl, leftAtom, rightAtom⟩ := test.of_operator kind
  obtain ⟨s, hs⟩ := exists_spelling scanned leftAtom
  obtain ⟨t, ht⟩ := exists_spelling behindScanned rightAtom
  exact ⟨s, t, hs, ht⟩

/-- An operand at the front of options is a single token. -/
theorem Grammar.Options.first {operands : List Operand} (options : Options (us ++ ws) operands) (phrase : Phrase us) :
    ∃ a operand, us = [a] ∧ Atom true a operand := by
  rcases phrase.cases with ⟨a, rfl⟩ | ⟨field, dot, name, opening, inside, closing, isDot, -, rfl⟩
  · cases options with
    | one atom => exact ⟨a, _, rfl, atom⟩
    | more atom => exact ⟨a, _, rfl, atom⟩
  · cases options with
    | more _ comma => exact absurd (isDot.symm.trans comma) (by decide)

/-- Options can be read from the tokens only when each of the texts is an operand of one token. -/
def AreSpelled (options : List Text) (ts : List Token) : Prop :=
  Undivided ts ∧ ∀ operands, Options ts operands → ∀ o ∈ options, ∃ s : Spelling, s.text = o

theorem scans_operands {options : List Text} (operands : ∀ o ∈ options, IsOperand o) (some : options ≠ []) :
    Scans (Text.join ", " options) (AreSpelled options) := by
  have joined : Scans (Text.join ", " (options.map id)) (AreSpelled options) := by
    refine scans_join AreSpelled isSeparator_comma ?_ ?_ (fun o ho => (operands o ho).scans) some
    · rintro o ts ⟨phrase, position, scanned⟩
      refine ⟨phrase.undivided, fun operands derived => List.forall_mem_singleton.2 ?_⟩
      rw [← List.append_nil ts] at derived
      obtain ⟨a, operand, rfl, atom⟩ := derived.first phrase
      exact exists_spelling scanned atom
    · rintro o others _ ⟨us, comma, vs, rfl, ⟨phrase, position, scanned⟩, kind, undivided, behind⟩
      have whole : Undivided (us ++ comma :: vs) :=
        phrase.undivided.append (List.forall_mem_cons.2 ⟨by simp [kind], undivided⟩)
      refine ⟨whole, fun operands derived => ?_⟩
      obtain ⟨a, operand, rfl, atom⟩ := derived.first phrase
      cases derived with
      | more _ _ more => exact List.forall_mem_cons.2 ⟨exists_spelling scanned atom, behind _ more⟩
  rwa [List.map_id] at joined

/-- Where `IN` is accepted, it stands behind an operand of one token, and in front of such operands. -/
theorem spelled_of_oneOf {options : List Text} (left : IsOperand x) (operands : ∀ o ∈ options, IsOperand o)
    (some : options ≠ [])
    (accepted : Layout.evaluate record (x ++ " IN (" ++ Text.join ", " options ++ ")") = .ok held) :
    ∃ (s : Spelling) (spelled : List Spelling), s.text = x ∧ spelled.map Spelling.text = options := by
  have words : x ++ " IN (" ++ Text.join ", " options ++ ")" =
      x ++ ' ' :: ("IN" ++ ' ' :: '(' :: (Text.join ", " options ++ ")")) := by simp
  have listed := isToken_in.before (scans_operands operands some).parenthesized
  obtain ⟨node, denotes, -⟩ := evaluate_eq_ok_iff.1 accepted
  rw [words] at denotes
  obtain ⟨_, a, word, _, scanned, isIn, ⟨opening, us, closing, rfl, -, ⟨-, each⟩, -⟩, test⟩ :=
    exists_test left listed
      (undivided_then (fun _ => Keyword.undivided) fun _ h => h.undivided fun _ h => h.1) denotes
  -- The tokens in the parentheses of the derivation are those of the operands.
  obtain ⟨_, read, leftAtom, _, vs, _, whole, -, derived, -⟩ := test.of_in isIn
  obtain ⟨-, inside⟩ := List.cons.inj whole
  obtain ⟨rfl, -⟩ := List.append_inj' inside rfl
  obtain ⟨s, hs⟩ := exists_spelling scanned leftAtom
  obtain ⟨spelled, hl⟩ : options ∈ Set.range (List.map Spelling.text) := by
    rw [Set.range_list_map]
    exact each _ derived
  exact ⟨s, spelled, hs, hl⟩

/-- Where words are accepted behind `IS`, they ask for a property of an operand of one token. -/
theorem spelled_of_is {words : List Text} (left : IsOperand x) (asks : Scans behind (List.Forall₂ Keyword words))
    (accepted : Layout.evaluate record (x ++ " IS " ++ behind) = .ok held) :
    ∃ (s : Spelling) (p : Property), s.text = x ∧ words = propertyWords p := by
  have whole : x ++ " IS " ++ behind = x ++ ' ' :: ("IS" ++ ' ' :: behind) := by simp
  obtain ⟨node, denotes, -⟩ := evaluate_eq_ok_iff.1 accepted
  rw [whole] at denotes
  obtain ⟨_, a, word, ts, scanned, isIs, asked, test⟩ := exists_test left (isToken_is.before asks)
    (undivided_then (fun _ => Keyword.undivided) fun _ => undivided_of_keywords) denotes
  obtain ⟨_, p, leftAtom, also⟩ := test.of_is isIs
  obtain ⟨s, hs⟩ := exists_spelling scanned leftAtom
  exact ⟨s, p, hs, Relator.LeftUnique.forall₂ keyword_leftUnique asked also⟩

/-! ## Negated forms -/

theorem asks_word {word : Text} (known : word ∈ keywords) : Scans word (List.Forall₂ Keyword [word]) := by
  refine Scans.imp (isToken_keyword known) ?_
  rintro _ ⟨t, rfl, keyword⟩
  exact .cons keyword .nil

theorem asks_not {word : Text} (known : word ∈ keywords) :
    Scans ("NOT" ++ ' ' :: word) (List.Forall₂ Keyword ["NOT", word]) := by
  refine (isToken_not.before (asks_word known)).imp ?_
  intro ts sorted
  match ts, sorted with
  | _ :: _, ⟨negation, asked⟩ => exact .cons negation asked

/-- A property that has a negation, asked for and denied. -/
theorem evaluate_isNot {word : Text} {p q : Property} (known : word ∈ keywords) (asks : propertyWords p = [word])
    (denies : propertyWords q = (["NOT", word] : List Text)) (complement : ∀ text, q.holds text = !p.holds text)
    (operand : IsOperand x) (accepted : Layout.evaluate record (x ++ " IS " ++ word) = .ok held) :
    Layout.evaluate record (x ++ " IS NOT " ++ word) = .ok (!held) := by
  obtain ⟨s, _, rfl, -⟩ := spelled_of_is operand (asks_word known) accepted
  have positive := (spells_is s (asks ▸ asks_word known)).evaluate record
  have negative := (spells_is s (denies ▸ asks_not known)).evaluate record
  have words : s.text ++ " IS NOT " ++ word = s.text ++ " IS " ++ ("NOT" ++ ' ' :: word) := by simp
  cases accepted.symm.trans positive
  rw [words, negative, Node.holds, Node.holds, complement]

/-- Whatever the operands are, the negated form of a test that is accepted is accepted too, and it comes to the
opposite: this holds for equality, for lists of options, for `NULL` and `BLANK` behind `IS`, and for any expression at
all in parentheses behind `!`. Behind `IS NOT`, the word `EMPTY` is refused. -/
theorem evaluate_negated (record : Record) :
    (∀ x y, IsOperand x → IsOperand y → ∀ held, Layout.evaluate record (x ++ " == " ++ y) = .ok held →
      Layout.evaluate record (x ++ " != " ++ y) = .ok (!held)) ∧
    (∀ x options, IsOperand x → (∀ o ∈ options, IsOperand o) → options ≠ [] → ∀ held,
      Layout.evaluate record (x ++ " IN (" ++ Text.join ", " options ++ ")") = .ok held →
      Layout.evaluate record (x ++ " NOT IN (" ++ Text.join ", " options ++ ")") = .ok (!held)) ∧
    (∀ x, IsOperand x → ∀ word ∈ (["NULL", "BLANK"] : List Text), ∀ held,
      Layout.evaluate record (x ++ " IS " ++ word) = .ok held →
      Layout.evaluate record (x ++ " IS NOT " ++ word) = .ok (!held)) ∧
    (∀ x, IsOperand x → ∃ fault, Layout.evaluate record (x ++ " IS NOT EMPTY") = .error fault) ∧
    ∀ e held, Layout.evaluate record e = .ok held → Layout.evaluate record ("!(" ++ e ++ ")") = .ok (!held) := by
  -- What is accepted is spelled in single tokens, and with these the negated form spells a test as well.
  refine ⟨?_, ?_, ?_, ?_, ?_⟩
  · intro x y left right held accepted
    obtain ⟨s, t, rfl, rfl⟩ := spelled_of_equal left right accepted
    cases accepted.symm.trans ((spells_compare .equal rfl s t).evaluate record)
    exact (spells_compare .notEqual rfl s t).evaluate record
  · intro x options left operands some held accepted
    obtain ⟨s, spelled, rfl, rfl⟩ := spelled_of_oneOf left operands some accepted
    have some : spelled ≠ [] := by simpa using some
    cases accepted.symm.trans ((spells_oneOf s some).evaluate record)
    have negative := (spells_notOneOf s some).evaluate record
    rw [Node.holds, Bool.bne_true] at negative
    rwa [Node.holds, Bool.bne_false]
  · intro x operand word known held accepted
    simp only [List.mem_cons, List.not_mem_nil, or_false] at known
    rcases known with rfl | rfl
    · exact evaluate_isNot (p := .isNull) (q := .isNotNull) (by decide) rfl rfl (fun text => by cases text <;> rfl)
        operand accepted
    · exact evaluate_isNot (p := .isBlank) (q := .isNotBlank) (by decide) rfl rfl (fun text => rfl) operand accepted
  · intro x operand
    cases outcome : Layout.evaluate record (x ++ " IS NOT EMPTY") with
    | error fault => exact ⟨fault, rfl⟩
    | ok held =>
      -- The words that were asked for would be those of a property.
      have words : x ++ " IS NOT EMPTY" = x ++ " IS " ++ ("NOT" ++ ' ' :: "EMPTY") := by simp
      rw [words] at outcome
      obtain ⟨_, p, -, asked⟩ := spelled_of_is operand (asks_not (by decide)) outcome
      cases p <;> exact absurd asked (by decide)
  · intro e held accepted
    obtain ⟨node, denotes, rfl⟩ := evaluate_eq_ok_iff.1 accepted
    exact evaluate_eq_ok_iff.2 ⟨.not node, denotes.not, rfl⟩

/-- A field that has a text, and the negated tests of it. -/
theorem evaluate_negated_codes :
    let record : Record := [("CODE", .text "A")]
    Layout.evaluate record "CODE != 'A'" = .ok false ∧ Layout.evaluate record "CODE NOT IN (1, 'A')" = .ok false ∧
      Layout.evaluate record "CODE IS NOT NULL" = .ok true ∧ Layout.evaluate record "!(CODE IS EMPTY)" = .ok true := by
  intro record
  have single : ∀ x : Text, (∃ t, tokens x = .ok [t] ∧ t.kind ∈ [TokenKind.string, .number, .identifier]) →
      IsOperand x := by
    rintro x ⟨t, scanned, kind⟩
    exact ⟨[t], scanned, .single kind⟩
  have code : IsOperand "CODE" := single _ ⟨⟨.identifier, "CODE", 0⟩, by decide +kernel⟩
  have letter : IsOperand "'A'" := single _ ⟨⟨.string, "A", 0⟩, by decide +kernel⟩
  have one : IsOperand "1" := single _ ⟨⟨.number, "1", 0⟩, by decide +kernel⟩
  obtain ⟨equal, oneOf, is, -, not⟩ := evaluate_negated record
  exact ⟨equal "CODE" "'A'" code letter true (by decide +kernel),
    oneOf "CODE" ["1", "'A'"] code (List.forall_mem_cons.2 ⟨one, List.forall_mem_singleton.2 letter⟩) (by simp) true
      (by decide +kernel),
    is "CODE" code "NULL" (by simp) false (by decide +kernel), not "CODE IS EMPTY" false (by decide +kernel)⟩

/-- The word `EMPTY` is known behind `IS`, but not behind `IS NOT`. -/
theorem evaluate_isNotEmpty :
    Layout.evaluate [("A", .text "x")] "A IS EMPTY" = .ok false ∧
      Layout.evaluate [("A", .text "x")] "A IS NOT EMPTY" =
        .error ⟨"A IS NOT EMPTY", 9, .unmet .wordAfterIs (some "EMPTY")⟩ := by
  decide +kernel

end FixedExtract.Expression
