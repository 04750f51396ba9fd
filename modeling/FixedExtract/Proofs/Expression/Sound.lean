import FixedExtract.Proofs.Expression.Grammar
/-!
# What is parsed is derived

Each function of the parser takes a derivable piece off the front of its tokens, and the tree it gives is the
one that the derivation denotes. The proofs follow the branches of the parser; the fuel only bounds how deep
they go.
-/

namespace FixedExtract.Expression

open Grammar

/-! ## Single tokens -/

theorem expect_eq_ok_iff {kind : TokenKind} {wanted : Wanted} {ts rest : List Token} {t : Token} :
    expect kind wanted ts = .ok (t, rest) ↔ ts = t :: rest ∧ t.kind = kind := by
  cases ts with
  | nil => simp [expect]
  | cons first others =>
    by_cases found : first.kind = kind
    · rw [expect, if_pos found]
      constructor
      · intro h
        cases h
        exact ⟨rfl, found⟩
      · rintro ⟨h, -⟩
        cases h
        rfl
    · rw [expect, if_neg found]
      constructor
      · intro h
        cases h
      · rintro ⟨h, kind⟩
        cases h
        exact absurd kind found

/-- What goes on behind an expected token succeeds when the token is there and the rest does. -/
theorem expect_bind_eq_ok_iff {α : Type} {kind : TokenKind} {wanted : Wanted} {ts : List Token}
    {f : Token × List Token → Except Refusal α} {result : α} :
    expect kind wanted ts >>= f = .ok result ↔
      ∃ t rest, ts = t :: rest ∧ t.kind = kind ∧ f (t, rest) = .ok result := by
  rw [bind_eq_ok_iff]
  constructor
  · rintro ⟨⟨t, rest⟩, found, h⟩
    obtain ⟨here, kind⟩ := expect_eq_ok_iff.1 found
    exact ⟨t, rest, here, kind, h⟩
  · rintro ⟨t, rest, here, kind, h⟩
    exact ⟨(t, rest), expect_eq_ok_iff.2 ⟨here, kind⟩, h⟩

theorem isKeyword_eq_true_iff {word : Text} {t : Token} : t.isKeyword word = true ↔ Keyword word t := by
  rw [Token.isKeyword, Bool.and_eq_true, decide_eq_true_eq, beq_iff_eq, Keyword]

theorem keyword?_eq_some_iff {word : Text} {ts rest : List Token} :
    keyword? word ts = some rest ↔ ∃ t, ts = t :: rest ∧ Keyword word t := by
  cases ts with
  | nil => simp [keyword?]
  | cons first others =>
    by_cases found : first.isKeyword word = true
    · rw [keyword?, if_pos found]
      constructor
      · intro h
        cases h
        exact ⟨first, rfl, isKeyword_eq_true_iff.1 found⟩
      · rintro ⟨t, h, -⟩
        cases h
        rfl
    · rw [keyword?, if_neg found]
      constructor
      · intro h
        cases h
      · rintro ⟨t, h, keyword⟩
        cases h
        exact absurd (isKeyword_eq_true_iff.2 keyword) found

/-- An identifier stands for a field, unless it is one of the literals. -/
theorem wordOperand_eq_field_iff {fallback marked : Bool} {text name : Text} :
    wordOperand fallback text = .field name marked ↔
      Text.lower text ∉ literals ∧ name = text ∧ marked = fallback := by
  unfold wordOperand
  simp only [literals, List.mem_cons, List.not_mem_nil, or_false, not_or, beq_iff_eq]
  split
  · next isNull => simp [isNull]
  · split
    · next isTrue => simp [isTrue]
    · split
      · next isFalse => simp [isFalse]
      · next isNull isTrue isFalse =>
        simp only [Operand.field.injEq]
        constructor
        · rintro ⟨rfl, rfl⟩
          exact ⟨⟨isNull, isTrue, isFalse⟩, rfl, rfl⟩
        · rintro ⟨-, rfl, rfl⟩
          exact ⟨rfl, rfl⟩

theorem atom_word (fallback : Bool) {t : Token} (identifier : t.kind = .identifier) :
    Atom fallback t (wordOperand fallback t.text) := by
  unfold wordOperand
  split
  · next isNull => exact .null identifier (eq_of_beq isNull)
  · split
    · next isTrue => exact .isTrue identifier (eq_of_beq isTrue)
    · split
      · next isFalse => exact .isFalse identifier (eq_of_beq isFalse)
      · next isNull isTrue isFalse =>
        refine .field ⟨identifier, ?_⟩
        simp only [beq_iff_eq] at isNull isTrue isFalse
        simp only [literals, List.mem_cons, List.not_mem_nil, or_false, not_or]
        exact ⟨isNull, isTrue, isFalse⟩

/-! ## Operands -/

/-- The numbers among the tokens are written in digits, if only in the wide sense. -/
def NumbersWritten (ts : List Token) : Prop :=
  ∀ t ∈ ts, t.kind = .number → Decimal.Written Text.isDigit t.text

theorem NumbersWritten.of_append {ts us : List Token} (h : NumbersWritten (ts ++ us)) :
    NumbersWritten us := fun t ht => h t (List.mem_append_right ts ht)

theorem NumbersWritten.tail {t : Token} {ts : List Token} (h : NumbersWritten (t :: ts)) :
    NumbersWritten ts := fun u hu => h u (List.mem_cons_of_mem t hu)

/-- The tokens that are left of some when a term has been taken off their front: an operand is a single token,
and a call is a test. -/
def Leaves (fallback : Bool) (ts : List Token) (term : Term) (rest : List Token) : Prop :=
  (∃ t o, ts = t :: rest ∧ term = .plain o ∧ Atom fallback t o) ∨
    ∃ used node, ts = used ++ rest ∧ term = .call node ∧ Test used node.tree

/-- A term is a single token, unless it is a field that a dot follows. -/
theorem operandOrCall_cases {fallback : Bool} {fuel : Nat} {t : Token} {ts rest : List Token} {term : Term}
    (numbers : NumbersWritten (t :: ts))
    (h : operandOrCall fallback (fuel + 1) (t :: ts) = .ok (term, rest)) :
    Leaves fallback (t :: ts) term rest ∨
      ∃ d afterDot, ts = d :: afterDot ∧ d.kind = .dot ∧ Field t := by
  unfold operandOrCall at h
  split at h
  · next string =>
    cases h
    exact .inl (.inl ⟨t, _, rfl, rfl, .string string⟩)
  · next number =>
    split at h
    · next value read =>
      cases h
      have written := (numbers t List.mem_cons_self number).decimal_of_read? read
      exact .inl (.inl ⟨t, _, rfl, rfl, .number number written read⟩)
    · cases h
  · next identifier =>
    split at h
    · next name marked word =>
      obtain ⟨notLiteral, rfl, rfl⟩ := wordOperand_eq_field_iff.1 word
      have field : Field t := ⟨identifier, notLiteral⟩
      split at h
      · cases h
        exact .inl (.inl ⟨t, _, rfl, rfl, .field field⟩)
      · next d afterDot =>
        split at h
        · cases h
          exact .inl (.inl ⟨t, _, rfl, rfl, .field field⟩)
        · next dot => exact .inr ⟨d, afterDot, rfl, not_not.1 dot, field⟩
    · next notField =>
      cases h
      exact .inl (.inl ⟨t, _, rfl, rfl, atom_word fallback identifier⟩)
  · cases h

/-- Behind a field and a dot there is a method, and it decides whether an argument follows. -/
theorem methodCall_sound {fallback : Bool} {fuel : Nat} {t d : Token} {ts rest : List Token} {term : Term}
    (field : Field t) (dot : d.kind = .dot)
    (argumentSound : ∀ {us behind argument}, us <:+ ts →
      operandOrCall false fuel us = .ok (argument, behind) → Leaves false us argument behind)
    (h : operandOrCall fallback (fuel + 1) (t :: d :: ts) = .ok (term, rest)) :
    ∃ used node, t :: d :: ts = used ++ rest ∧ term = .call node ∧ Test used node.tree := by
  have word : wordOperand fallback t.text = .field t.text fallback :=
    wordOperand_eq_field_iff.2 ⟨field.2, rfl, rfl⟩
  rw [operandOrCall, field.1, word] at h
  simp only [dot, ne_eq, not_true_eq_false, if_false] at h
  obtain ⟨name, _, rfl, nameKind, afterName⟩ := expect_bind_eq_ok_iff.1 h
  dsimp only at afterName
  split at afterName
  · cases afterName
  · next p known =>
    have named := Method.ofName?_eq_some_iff.1 known
    obtain ⟨opening, _, rfl, openingKind, afterOpening⟩ := expect_bind_eq_ok_iff.1 afterName
    obtain ⟨closing, _, rfl, closingKind, done⟩ := expect_bind_eq_ok_iff.1 afterOpening
    cases done
    have test : Test [t, d, name, opening, closing] _ :=
      .property field dot nameKind named.symm openingKind closingKind
    rw [← named] at test
    exact ⟨_, _, rfl, rfl, test⟩
  · next o known =>
    have named := Method.ofName?_eq_some_iff.1 known
    obtain ⟨opening, more, rfl, openingKind, afterOpening⟩ := expect_bind_eq_ok_iff.1 afterName
    obtain ⟨⟨argument, _⟩, read, afterArgument⟩ := bind_eq_ok_iff.1 afterOpening
    have behind : more <:+ name :: opening :: more := List.suffix_append [name, opening] more
    -- The argument is an operand: no call stands where one is wanted.
    rcases argumentSound behind read with ⟨part, operand, rfl, rfl, atom⟩ | ⟨_, node, -, rfl, -⟩
    · obtain ⟨closing, _, rfl, closingKind, done⟩ := expect_bind_eq_ok_iff.1 afterArgument
      cases done
      have test : Test [t, d, name, opening, part, closing] _ :=
        .search field dot nameKind named.symm openingKind atom closingKind
      rw [← named] at test
      exact ⟨_, _, rfl, rfl, test⟩
    · cases afterArgument

theorem operandOrCall_sound {fallback : Bool} {fuel : Nat} {ts rest : List Token} {term : Term}
    (numbers : NumbersWritten ts) (h : operandOrCall fallback fuel ts = .ok (term, rest)) :
    Leaves fallback ts term rest := by
  -- The induction is on the fuel: a call spends one unit on its argument.
  induction fuel generalizing fallback ts rest term with
  | zero => cases ts <;> cases h
  | succ fuel ih =>
    match ts with
    | [] => cases h
    | t :: ts =>
      rcases operandOrCall_cases numbers h with leaves | ⟨d, afterDot, rfl, dot, field⟩
      · exact leaves
      · right
        refine methodCall_sound field dot ?_ h
        intro us behind argument suffix read
        exact ih (fun u hu => numbers.tail.tail u (suffix.subset hu)) read

theorem plainOperand_sound {ts rest : List Token} {operand : Operand} (numbers : NumbersWritten ts)
    (h : plainOperand ts = .ok (operand, rest)) : ∃ t, ts = t :: rest ∧ Atom true t operand := by
  obtain ⟨⟨term, rest'⟩, read, done⟩ := bind_eq_ok_iff.1 h
  rcases operandOrCall_sound numbers read with ⟨t, o, rfl, rfl, atom⟩ | ⟨_, node, -, rfl, -⟩
  · cases done
    exact ⟨t, rfl, atom⟩
  · cases done

/-! ## Tests -/

/-- Behind a first option, further ones follow up to the closing parenthesis. -/
theorem moreOptions_sound {fuel : Nat} {t : Token} {ts rest : List Token} {option : Operand}
    {others : List Operand} (numbers : NumbersWritten ts) (atom : Atom true t option)
    (h : moreOptions fuel ts = .ok (others, rest)) :
    ∃ us closing, t :: ts = us ++ closing :: rest ∧ Options us (option :: others) ∧
      closing.kind = .rightParen := by
  induction fuel generalizing t ts option others with
  | zero => cases h
  | succ fuel ih =>
    match ts with
    | [] => cases h
    | comma :: behind =>
      rw [moreOptions] at h
      by_cases divides : comma.kind = .comma
      · rw [if_pos divides] at h
        obtain ⟨⟨next, rest₁⟩, readNext, afterNext⟩ := bind_eq_ok_iff.1 h
        obtain ⟨u, rfl, nextAtom⟩ := plainOperand_sound numbers.tail readNext
        obtain ⟨⟨more, rest₂⟩, readMore, done⟩ := bind_eq_ok_iff.1 afterNext
        cases done
        obtain ⟨us, closing, here, options, closingKind⟩ := ih numbers.tail.tail nextAtom readMore
        refine ⟨t :: comma :: us, closing, ?_, .more atom divides options, closingKind⟩
        rw [here]
        rfl
      · rw [if_neg divides] at h
        obtain ⟨closing, _, here, closingKind, done⟩ := expect_bind_eq_ok_iff.1 h
        cases here
        cases done
        exact ⟨[t], comma, rfl, .one atom, closingKind⟩

theorem optionList_sound {ts rest : List Token} {options : List Operand} (numbers : NumbersWritten ts)
    (h : optionList ts = .ok (options, rest)) :
    ∃ opening us closing, ts = opening :: (us ++ closing :: rest) ∧ opening.kind = .leftParen ∧
      Options us options ∧ closing.kind = .rightParen := by
  obtain ⟨opening, _, rfl, openingKind, afterOpening⟩ := expect_bind_eq_ok_iff.1 h
  obtain ⟨⟨first, rest₁⟩, readFirst, afterFirst⟩ := bind_eq_ok_iff.1 afterOpening
  obtain ⟨t, rfl, atom⟩ := plainOperand_sound numbers.tail readFirst
  obtain ⟨⟨more, rest₂⟩, readMore, done⟩ := bind_eq_ok_iff.1 afterFirst
  cases done
  obtain ⟨us, closing, here, derived, closingKind⟩ := moreOptions_sound numbers.tail.tail atom readMore
  refine ⟨opening, us, closing, ?_, openingKind, derived, closingKind⟩
  rw [here]

theorem propertyWord_sound {ts rest : List Token} {p : Property} (h : propertyWord ts = .ok (p, rest)) :
    ∃ words, ts = words ++ rest ∧ List.Forall₂ Keyword (propertyWords p) words := by
  unfold propertyWord at h
  -- Only two of the three words may be negated.
  cases negation : keyword? "NOT" ts with
  | some behind =>
    obtain ⟨t, rfl, notWord⟩ := keyword?_eq_some_iff.1 negation
    simp only [negation, if_true] at h
    split at h
    · next found =>
      cases h
      obtain ⟨u, rfl, nullWord⟩ := keyword?_eq_some_iff.1 found
      exact ⟨[t, u], rfl, .cons notWord (.cons nullWord .nil)⟩
    · next found _ =>
      cases h
      obtain ⟨u, rfl, blankWord⟩ := keyword?_eq_some_iff.1 found
      exact ⟨[t, u], rfl, .cons notWord (.cons blankWord .nil)⟩
    · cases h
    · cases h
  | none =>
    simp only [negation] at h
    split at h
    · next found =>
      cases h
      obtain ⟨u, rfl, nullWord⟩ := keyword?_eq_some_iff.1 found
      exact ⟨[u], rfl, .cons nullWord .nil⟩
    · next found _ =>
      cases h
      obtain ⟨u, rfl, blankWord⟩ := keyword?_eq_some_iff.1 found
      exact ⟨[u], rfl, .cons blankWord .nil⟩
    · next found _ _ =>
      cases h
      obtain ⟨u, rfl, emptyWord⟩ := keyword?_eq_some_iff.1 found
      exact ⟨[u], rfl, .cons emptyWord .nil⟩
    · cases h

theorem operatorName_eq_symbol {text : Text} {c : Comparator} (h : Comparator.ofText? text = some c) :
    operatorName text = c.symbol := by
  unfold Comparator.ofText? at h
  split at h <;> cases h <;> decide

/-- What follows the left operand completes a test. -/
theorem testOf_sound {a : Token} {ts rest : List Token} {left : Operand} {node : Node}
    (numbers : NumbersWritten ts) (atom : Atom false a left) (h : testOf left ts = .ok (node, rest)) :
    ∃ used, ts = used ++ rest ∧ Test (a :: used) node.tree := by
  match ts with
  | [] => cases h
  | t :: behind =>
    unfold testOf at h
    dsimp only at h
    -- The operators come first, then the keywords one by one.
    split at h
    · next op kind known =>
      obtain ⟨⟨term, rest₁⟩, read, done⟩ := bind_eq_ok_iff.1 h
      rcases operandOrCall_sound numbers.tail read with ⟨b, right, rfl, rfl, other⟩ | ⟨_, _, -, rfl, -⟩
      · cases done
        have name := operatorName_eq_symbol known
        have test : Test [a, t, b] _ := .compare atom kind name other
        rw [name] at test
        exact ⟨[t, b], rfl, test⟩
      · cases done
    · split at h
      · next negation =>
        split at h
        · cases h
        · next behindIn found =>
          obtain ⟨word, rfl, inWord⟩ := keyword?_eq_some_iff.1 found
          obtain ⟨⟨options, rest₁⟩, read, done⟩ := bind_eq_ok_iff.1 h
          cases done
          obtain ⟨opening, us, closing, rfl, openingKind, derived, closingKind⟩ :=
            optionList_sound numbers.tail.tail read
          refine ⟨t :: word :: opening :: (us ++ [closing]), by simp, ?_⟩
          exact .notOneOf atom (isKeyword_eq_true_iff.1 negation) inWord openingKind derived closingKind
      · split at h
        · next inWord =>
          obtain ⟨⟨options, rest₁⟩, read, done⟩ := bind_eq_ok_iff.1 h
          cases done
          obtain ⟨opening, us, closing, rfl, openingKind, derived, closingKind⟩ :=
            optionList_sound numbers.tail read
          refine ⟨t :: opening :: (us ++ [closing]), by simp, ?_⟩
          exact .oneOf atom (isKeyword_eq_true_iff.1 inWord) openingKind derived closingKind
        · split at h
          · next word =>
            obtain ⟨⟨low, rest₁⟩, readLow, afterLow⟩ := bind_eq_ok_iff.1 h
            obtain ⟨b, rfl, lowAtom⟩ := plainOperand_sound numbers.tail readLow
            dsimp only at afterLow
            split at afterLow
            · cases afterLow
            · next behindAnd found =>
              obtain ⟨conjunction, rfl, andWord⟩ := keyword?_eq_some_iff.1 found
              obtain ⟨⟨high, rest₂⟩, readHigh, done⟩ := bind_eq_ok_iff.1 afterLow
              obtain ⟨c, rfl, highAtom⟩ := plainOperand_sound numbers.tail.tail.tail readHigh
              cases done
              refine ⟨[t, b, conjunction, c], rfl, ?_⟩
              exact .between atom (isKeyword_eq_true_iff.1 word) lowAtom andWord highAtom
          · split at h
            · next word =>
              obtain ⟨⟨pattern, rest₁⟩, read, done⟩ := bind_eq_ok_iff.1 h
              obtain ⟨b, rfl, patternAtom⟩ := plainOperand_sound numbers.tail read
              cases done
              exact ⟨[t, b], rfl, .like atom (isKeyword_eq_true_iff.1 word) patternAtom⟩
            · split at h
              · next word =>
                obtain ⟨⟨p, rest₁⟩, read, done⟩ := bind_eq_ok_iff.1 h
                obtain ⟨words, rfl, keywords⟩ := propertyWord_sound read
                cases done
                exact ⟨t :: words, rfl, .is atom (isKeyword_eq_true_iff.1 word) keywords⟩
              · cases h

/-- A call is a test already, and an operand is the start of one. -/
theorem predicate_sound {ts rest : List Token} {node : Node} (numbers : NumbersWritten ts)
    (h : predicate ts = .ok (node, rest)) : ∃ used, ts = used ++ rest ∧ Test used node.tree := by
  obtain ⟨⟨term, rest₁⟩, read, done⟩ := bind_eq_ok_iff.1 h
  rcases operandOrCall_sound numbers read with ⟨a, left, rfl, rfl, atom⟩ | ⟨used, called, rfl, rfl, test⟩
  · obtain ⟨used, rfl, test⟩ := testOf_sound numbers.tail atom done
    exact ⟨a :: used, rfl, test⟩
  · cases done
    exact ⟨used, rfl, test⟩

/-! ## Boolean structure -/

theorem allOf_tree (children : List Node) :
    (allOf children).tree = Tree.allOf (children.map Node.tree) := by
  match children with
  | [] => rfl
  | [node] => rfl
  | _ :: _ :: _ =>
    rw [allOf, Node.tree, treesOf_eq_map]
    · rfl
    · simp

theorem anyOf_tree (children : List Node) :
    (anyOf children).tree = Tree.anyOf (children.map Node.tree) := by
  match children with
  | [] => rfl
  | [node] => rfl
  | _ :: _ :: _ =>
    rw [anyOf, Node.tree, treesOf_eq_map]
    · rfl
    · simp

/-- With one measure of fuel, all three levels of the parser are sound. -/
structure SoundAt (fuel : Nat) : Prop where
  disjunction : ∀ {ts rest nodes}, NumbersWritten ts → disjunction fuel ts = .ok (nodes, rest) →
    ∃ used, ts = used ++ rest ∧ Disjunction used (nodes.map Node.tree)
  conjunction : ∀ {ts rest nodes}, NumbersWritten ts → conjunction fuel ts = .ok (nodes, rest) →
    ∃ used, ts = used ++ rest ∧ Conjunction used (nodes.map Node.tree)
  factor : ∀ {ts rest node}, NumbersWritten ts → factor fuel ts = .ok (node, rest) →
    ∃ used, ts = used ++ rest ∧ Factor used node.tree

theorem disjunction_sound {fuel : Nat} (below : SoundAt fuel) {ts rest : List Token} {nodes : List Node}
    (numbers : NumbersWritten ts) (h : disjunction (fuel + 1) ts = .ok (nodes, rest)) :
    ∃ used, ts = used ++ rest ∧ Disjunction used (nodes.map Node.tree) := by
  rw [disjunction] at h
  obtain ⟨⟨children, rest₁⟩, readFirst, afterFirst⟩ := bind_eq_ok_iff.1 h
  obtain ⟨used, rfl, first⟩ := below.conjunction numbers readFirst
  have alone : Disjunction used ([allOf children].map Node.tree) := by
    rw [List.map_singleton, allOf_tree]
    exact .one first
  dsimp only at afterFirst
  split at afterFirst
  · cases afterFirst
    exact ⟨used, rfl, alone⟩
  · next t more =>
    split at afterFirst
    · next divides =>
      obtain ⟨⟨others, rest₂⟩, readOthers, done⟩ := bind_eq_ok_iff.1 afterFirst
      cases done
      obtain ⟨behind, rfl, derived⟩ := below.disjunction numbers.of_append.tail readOthers
      refine ⟨used ++ t :: behind, by simp, ?_⟩
      rw [List.map_cons, allOf_tree]
      exact .more first divides derived
    · cases afterFirst
      exact ⟨used, rfl, alone⟩

theorem conjunction_sound {fuel : Nat} (below : SoundAt fuel) {ts rest : List Token} {nodes : List Node}
    (numbers : NumbersWritten ts) (h : conjunction (fuel + 1) ts = .ok (nodes, rest)) :
    ∃ used, ts = used ++ rest ∧ Conjunction used (nodes.map Node.tree) := by
  rw [conjunction] at h
  obtain ⟨⟨child, rest₁⟩, readFirst, afterFirst⟩ := bind_eq_ok_iff.1 h
  obtain ⟨used, rfl, first⟩ := below.factor numbers readFirst
  dsimp only at afterFirst
  split at afterFirst
  · cases afterFirst
    exact ⟨used, rfl, .one first⟩
  · next t more =>
    split at afterFirst
    · next divides =>
      obtain ⟨⟨others, rest₂⟩, readOthers, done⟩ := bind_eq_ok_iff.1 afterFirst
      cases done
      obtain ⟨behind, rfl, derived⟩ := below.conjunction numbers.of_append.tail readOthers
      exact ⟨used ++ t :: behind, by simp, .more first divides derived⟩
    · cases afterFirst
      exact ⟨used, rfl, .one first⟩

theorem factor_sound {fuel : Nat} (below : SoundAt fuel) {ts rest : List Token} {node : Node}
    (numbers : NumbersWritten ts) (h : factor (fuel + 1) ts = .ok (node, rest)) :
    ∃ used, ts = used ++ rest ∧ Factor used node.tree := by
  match ts with
  | [] => cases h
  | t :: behind =>
    rw [factor] at h
    split at h
    · next bang =>
      obtain ⟨⟨inner, rest₁⟩, read, done⟩ := bind_eq_ok_iff.1 h
      obtain ⟨used, rfl, derived⟩ := below.factor numbers.tail read
      cases done
      exact ⟨t :: used, rfl, .not bang derived⟩
    · next opening =>
      obtain ⟨⟨children, rest₁⟩, read, afterChildren⟩ := bind_eq_ok_iff.1 h
      obtain ⟨used, rfl, derived⟩ := below.disjunction numbers.tail read
      obtain ⟨closing, _, rfl, closingKind, done⟩ := expect_bind_eq_ok_iff.1 afterChildren
      cases done
      refine ⟨t :: (used ++ [closing]), by simp, ?_⟩
      rw [anyOf_tree]
      exact .group opening derived closingKind
    · obtain ⟨used, here, test⟩ := predicate_sound numbers h
      exact ⟨used, here, .test test⟩

theorem soundAt (fuel : Nat) : SoundAt fuel := by
  induction fuel with
  | zero => constructor <;> intros <;> contradiction
  | succ fuel below =>
    exact ⟨disjunction_sound below, conjunction_sound below, factor_sound below⟩

theorem parseTokens_sound {ts : List Token} {node : Node} (numbers : NumbersWritten ts)
    (h : parseTokens ts = .ok node) : Derives ts node.tree := by
  match ts with
  | [] => cases h
  | t :: behind =>
    rw [parseTokens] at h
    obtain ⟨⟨children, left⟩, read, done⟩ := bind_eq_ok_iff.1 h
    obtain ⟨used, here, derived⟩ := (soundAt _).disjunction numbers read
    match left with
    | [] =>
      cases done
      rw [here, List.append_nil]
      exact ⟨_, derived, anyOf_tree children⟩
    | _ :: _ => cases done

end FixedExtract.Expression
