import FixedExtract.Proofs.Expression.Sound
/-!
# What is derived is parsed

The parser takes a derivable piece off the front of its tokens when the next token does not go on with the
piece: no dot may follow an operand, no `&&` a conjunction, and no `||` a disjunction. The fuel of a whole
parse is three for every token and three more, one for every level of the grammar.
-/

namespace FixedExtract.Expression

open Grammar

/-! ## What may follow -/

/-- The tokens do not start with one of these kinds. -/
def Apart (kinds : List TokenKind) (ts : List Token) : Prop := ∀ t ∈ ts.head?, t.kind ∉ kinds

theorem apart_nil (kinds : List TokenKind) : Apart kinds [] := by simp [Apart]

theorem apart_cons {kinds : List TokenKind} {t : Token} {ts : List Token} (h : t.kind ∉ kinds) :
    Apart kinds (t :: ts) := by
  intro u hu
  cases hu
  exact h

theorem apart_of_kind {kinds : List TokenKind} {kind : TokenKind} {t : Token} {ts : List Token}
    (h : t.kind = kind) (other : kind ∉ kinds) : Apart kinds (t :: ts) := apart_cons (h ▸ other)

theorem Apart.head {kinds : List TokenKind} {t : Token} {ts : List Token} (h : Apart kinds (t :: ts)) :
    t.kind ∉ kinds := h t rfl

theorem Apart.mono {kinds fewer : List TokenKind} {ts : List Token} (h : Apart kinds ts)
    (sub : fewer ⊆ kinds) : Apart fewer ts := fun t ht hk => h t ht (sub hk)

theorem Apart.of_keyword {word : Text} {t : Token} {ts : List Token} (h : Keyword word t) :
    Apart [.dot] (t :: ts) := apart_of_kind h.1 (by decide)

/-- A keyword is no other keyword. -/
theorem isKeyword_eq {word : Text} {t : Token} (h : Keyword word t) (other : Text) :
    t.isKeyword other = (word == other) := by
  rw [Token.isKeyword, h.1, h.2]
  rfl

theorem keyword?_eq {word : Text} {t : Token} (h : Keyword word t) (other : Text) (rest : List Token) :
    keyword? other (t :: rest) = if word == other then some rest else none := by
  rw [keyword?, isKeyword_eq h]

/-! ## Operands -/

theorem operandOrCall_complete {fallback : Bool} {t : Token} {operand : Operand} {rest : List Token}
    (atom : Atom fallback t operand) (apart : Apart [.dot] rest) (fuel : Nat) :
    operandOrCall fallback (fuel + 1) (t :: rest) = .ok (.plain operand, rest) := by
  cases atom with
  | string kind => rw [operandOrCall, kind]
  | number kind _ read => rw [operandOrCall, kind, read]
  | null kind word =>
    have literal : wordOperand fallback t.text = .null := by
      rw [wordOperand, word]
      rfl
    rw [operandOrCall, kind, literal]
  | isTrue kind word =>
    have literal : wordOperand fallback t.text = .boolean true := by
      rw [wordOperand, word]
      rfl
    rw [operandOrCall, kind, literal]
  | isFalse kind word =>
    have literal : wordOperand fallback t.text = .boolean false := by
      rw [wordOperand, word]
      rfl
    rw [operandOrCall, kind, literal]
  | field field =>
    have name : wordOperand fallback t.text = .field t.text fallback :=
      wordOperand_eq_field_iff.2 ⟨field.2, rfl, rfl⟩
    rw [operandOrCall, field.1, name]
    -- A field is the start of a call only when a dot comes next.
    cases rest with
    | nil => rfl
    | cons d afterDot =>
      have notDot : d.kind ≠ .dot := fun dot => apart.head (by simp [dot])
      exact if_pos notDot

theorem plainOperand_complete {t : Token} {operand : Operand} {rest : List Token}
    (atom : Atom true t operand) (apart : Apart [.dot] rest) :
    plainOperand (t :: rest) = .ok (operand, rest) := by
  rw [plainOperand, operandOrCall_complete atom apart]
  rfl

/-- A call of a property starts with a field and goes on with the property's name. -/
theorem operandOrCall_property {field dot name opening closing : Token} {p : Property}
    (isField : Field field) (dotKind : dot.kind = .dot) (nameKind : name.kind = .identifier)
    (named : name.text = p.name) (openingKind : opening.kind = .leftParen)
    (closingKind : closing.kind = .rightParen) (fuel : Nat) (rest : List Token) :
    operandOrCall false (fuel + 1) (field :: dot :: name :: opening :: closing :: rest) =
      .ok (.call (.check (.field field.text false) p), rest) := by
  have word : wordOperand false field.text = .field field.text false :=
    wordOperand_eq_field_iff.2 ⟨isField.2, rfl, rfl⟩
  have known : Method.ofName? name.text = some (.property p) :=
    Method.ofName?_eq_some_iff.2 named.symm
  rw [operandOrCall, isField.1, word]
  simp only [dotKind, ne_eq, not_true_eq_false, if_false, expect, nameKind, if_true, ok_bind, known,
    openingKind, closingKind]
  rfl

theorem operandOrCall_search {field dot name opening part closing : Token} {o : Occurrence}
    {argument : Operand} (isField : Field field) (dotKind : dot.kind = .dot)
    (nameKind : name.kind = .identifier) (named : name.text = o.name)
    (openingKind : opening.kind = .leftParen) (atom : Atom false part argument)
    (closingKind : closing.kind = .rightParen) (fuel : Nat) (rest : List Token) :
    operandOrCall false (fuel + 2) (field :: dot :: name :: opening :: part :: closing :: rest) =
      .ok (.call (.search (.field field.text false) o argument), rest) := by
  have word : wordOperand false field.text = .field field.text false :=
    wordOperand_eq_field_iff.2 ⟨isField.2, rfl, rfl⟩
  have known : Method.ofName? name.text = some (.search o) :=
    Method.ofName?_eq_some_iff.2 named.symm
  have read : operandOrCall false (fuel + 1) (part :: closing :: rest) =
      .ok (.plain argument, closing :: rest) :=
    operandOrCall_complete atom (apart_of_kind closingKind (by decide)) fuel
  rw [operandOrCall, isField.1, word]
  simp only [dotKind, ne_eq, not_true_eq_false, if_false, expect, nameKind, if_true, ok_bind, known,
    openingKind, read, closingKind]
  rfl

/-! ## Tests -/

/-- The options behind the first one are read up to the closing parenthesis. -/
theorem options_read {ts : List Token} {options : List Operand} {closing : Token}
    (h : Options ts options) (closingKind : closing.kind = .rightParen) (rest : List Token) :
    ∃ t us first others, ts = t :: us ∧ options = first :: others ∧ Atom true t first ∧
      Apart [.dot] (us ++ closing :: rest) ∧
      ∀ fuel, us.length < fuel → moreOptions fuel (us ++ closing :: rest) = .ok (others, rest) := by
  induction h with
  | @one t option atom =>
    refine ⟨t, [], option, [], rfl, rfl, atom, ?_, ?_⟩
    · exact apart_of_kind closingKind (by decide)
    · intro fuel enough
      obtain ⟨fuel, rfl⟩ := Nat.exists_eq_succ_of_ne_zero (Nat.ne_of_gt enough)
      show moreOptions (fuel + 1) (closing :: rest) = _
      have notComma : closing.kind ≠ .comma := by
        rw [closingKind]
        decide
      rw [moreOptions, if_neg notComma, expect, if_pos closingKind]
      rfl
  | @more t comma ts option others atom divides _ ih =>
    obtain ⟨u, us, next, further, rfl, rfl, nextAtom, apart, read⟩ := ih
    refine ⟨t, comma :: u :: us, option, next :: further, rfl, rfl, atom, ?_, ?_⟩
    · exact apart_of_kind divides (by decide)
    · intro fuel enough
      obtain ⟨fuel, rfl⟩ := Nat.exists_eq_succ_of_ne_zero (Nat.ne_of_gt (Nat.zero_lt_of_lt enough))
      -- Every comma costs a unit of fuel, and there are more tokens than commas.
      rw [List.length_cons, List.length_cons] at enough
      have behind := read fuel (by omega)
      show moreOptions (fuel + 1) (comma :: u :: (us ++ closing :: rest)) = _
      rw [moreOptions, if_pos divides, plainOperand_complete nextAtom apart, ok_bind]
      dsimp only
      rw [behind]
      rfl

theorem optionList_complete {opening closing : Token} {ts rest : List Token} {options : List Operand}
    (openingKind : opening.kind = .leftParen) (h : Options ts options)
    (closingKind : closing.kind = .rightParen) :
    optionList (opening :: (ts ++ closing :: rest)) = .ok (options, rest) := by
  obtain ⟨t, us, first, others, rfl, rfl, atom, apart, read⟩ := options_read h closingKind rest
  have more := read ((us ++ closing :: rest).length + 1) (by rw [List.length_append]; omega)
  rw [optionList, expect, if_pos openingKind, ok_bind]
  show (plainOperand (t :: (us ++ closing :: rest)) >>= _) = _
  rw [plainOperand_complete atom apart, ok_bind]
  dsimp only
  rw [more]
  rfl

theorem propertyWord_complete {words : List Token} {p : Property} (rest : List Token)
    (h : List.Forall₂ Keyword (propertyWords p) words) : propertyWord (words ++ rest) = .ok (p, rest) := by
  -- Whether the first word negates decides where the other one is looked for.
  cases p with
  | isNull =>
    obtain ⟨u, _, word, none, rfl⟩ := List.forall₂_cons_left_iff.1 h
    cases none
    have plain : keyword? "NOT" (u :: rest) = none := keyword?_eq word "NOT" rest
    simp only [propertyWord, List.cons_append, List.nil_append, plain, keyword?_eq word]
    rfl
  | isNotNull =>
    obtain ⟨t, _, notWord, more, rfl⟩ := List.forall₂_cons_left_iff.1 h
    obtain ⟨u, _, word, none, rfl⟩ := List.forall₂_cons_left_iff.1 more
    cases none
    have negated : keyword? "NOT" (t :: u :: rest) = some (u :: rest) := keyword?_eq notWord "NOT" _
    simp only [propertyWord, List.cons_append, List.nil_append, negated, keyword?_eq word]
    rfl
  | isBlank =>
    obtain ⟨u, _, word, none, rfl⟩ := List.forall₂_cons_left_iff.1 h
    cases none
    have plain : keyword? "NOT" (u :: rest) = none := keyword?_eq word "NOT" rest
    simp only [propertyWord, List.cons_append, List.nil_append, plain, keyword?_eq word]
    rfl
  | isNotBlank =>
    obtain ⟨t, _, notWord, more, rfl⟩ := List.forall₂_cons_left_iff.1 h
    obtain ⟨u, _, word, none, rfl⟩ := List.forall₂_cons_left_iff.1 more
    cases none
    have negated : keyword? "NOT" (t :: u :: rest) = some (u :: rest) := keyword?_eq notWord "NOT" _
    simp only [propertyWord, List.cons_append, List.nil_append, negated, keyword?_eq word]
    rfl
  | isEmpty =>
    obtain ⟨u, _, word, none, rfl⟩ := List.forall₂_cons_left_iff.1 h
    cases none
    have plain : keyword? "NOT" (u :: rest) = none := keyword?_eq word "NOT" rest
    simp only [propertyWord, List.cons_append, List.nil_append, plain, keyword?_eq word]
    rfl

theorem operator_of_name {text : Text} {c : Comparator} (h : operatorName text = c.symbol) :
    Comparator.ofText? text = some c := by
  unfold operatorName at h
  split at h
  · next single =>
    rw [single]
    cases c <;> first | rfl | cases h
  · rw [h]
    cases c <;> rfl

/-- A test that starts with an operand goes on where that operand ends. -/
theorem predicate_eq_testOf {a : Token} {left : Operand} {behind : List Token} (atom : Atom false a left)
    (apart : Apart [.dot] behind) : predicate (a :: behind) = testOf left behind := by
  rw [predicate, operandOrCall_complete atom apart]
  rfl

theorem predicate_complete {ts rest : List Token} {tree : Tree} (h : Test ts tree)
    (apart : Apart [.dot] rest) : ∃ node, node.tree = tree ∧ predicate (ts ++ rest) = .ok (node, rest) := by
  -- A call is a test by itself; every other test starts with an operand, and what follows decides.
  cases h with
  | @property field dot name opening closing p isField dotKind nameKind named openingKind closingKind =>
    refine ⟨.check (.field field.text false) p, by rw [named]; rfl, ?_⟩
    show predicate (field :: dot :: name :: opening :: closing :: rest) = _
    rw [predicate,
      operandOrCall_property isField dotKind nameKind named openingKind closingKind]
    rfl
  | @search field dot name opening part closing o argument isField dotKind nameKind named openingKind
      partAtom closingKind =>
    refine ⟨.search (.field field.text false) o argument, by rw [named]; rfl, ?_⟩
    show predicate (field :: dot :: name :: opening :: part :: closing :: rest) = _
    rw [predicate, List.length_cons,
      operandOrCall_search isField dotKind nameKind named openingKind partAtom closingKind]
    rfl
  | @compare a op b left right c atom kind named other =>
    refine ⟨.compare c left right, by rw [named]; rfl, ?_⟩
    show predicate (a :: op :: b :: rest) = _
    rw [predicate_eq_testOf atom (apart_of_kind kind (by decide))]
    unfold testOf
    simp only [kind, operator_of_name named, operandOrCall_complete other apart, ok_bind]
    rfl
  | @oneOf a word opening closing us left options atom inWord openingKind derived closingKind =>
    refine ⟨.oneOf left options false, rfl, ?_⟩
    have entered : testOf left (word :: opening :: (us ++ closing :: rest)) =
        optionList (opening :: (us ++ closing :: rest)) >>= fun read =>
          .ok (.oneOf left read.1 false, read.2) := by
      simp only [testOf, inWord.1, isKeyword_eq inWord]
      rfl
    have here : a :: word :: opening :: (us ++ [closing]) ++ rest =
        a :: word :: opening :: (us ++ closing :: rest) := by simp
    rw [here, predicate_eq_testOf atom (.of_keyword inWord), entered,
      optionList_complete openingKind derived closingKind]
    rfl
  | @notOneOf a negation word opening closing us left options atom notWord inWord openingKind derived
      closingKind =>
    refine ⟨.oneOf left options true, rfl, ?_⟩
    have entered : testOf left (negation :: word :: opening :: (us ++ closing :: rest)) =
        optionList (opening :: (us ++ closing :: rest)) >>= fun read =>
          .ok (.oneOf left read.1 true, read.2) := by
      have found : keyword? "IN" (word :: opening :: (us ++ closing :: rest)) =
          some (opening :: (us ++ closing :: rest)) := keyword?_eq inWord "IN" _
      simp only [testOf, notWord.1, isKeyword_eq notWord, found]
      rfl
    have here : a :: negation :: word :: opening :: (us ++ [closing]) ++ rest =
        a :: negation :: word :: opening :: (us ++ closing :: rest) := by simp
    rw [here, predicate_eq_testOf atom (.of_keyword notWord), entered,
      optionList_complete openingKind derived closingKind]
    rfl
  | @between a word b conjunction c left low high atom betweenWord lowAtom andWord highAtom =>
    refine ⟨.between left low high, rfl, ?_⟩
    show predicate (a :: word :: b :: conjunction :: c :: rest) = _
    have found : keyword? "AND" (conjunction :: c :: rest) = some (c :: rest) :=
      keyword?_eq andWord "AND" _
    rw [predicate_eq_testOf atom (.of_keyword betweenWord)]
    simp only [testOf, betweenWord.1, isKeyword_eq betweenWord,
      plainOperand_complete lowAtom (.of_keyword andWord), ok_bind, found,
      plainOperand_complete highAtom apart]
    rfl
  | @like a word b left pattern atom likeWord patternAtom =>
    refine ⟨.like left pattern, rfl, ?_⟩
    show predicate (a :: word :: b :: rest) = _
    rw [predicate_eq_testOf atom (.of_keyword likeWord)]
    simp only [testOf, likeWord.1, isKeyword_eq likeWord, plainOperand_complete patternAtom apart, ok_bind]
    rfl
  | @is a word words left p atom isWord keywords =>
    refine ⟨.check left p, rfl, ?_⟩
    show predicate (a :: word :: (words ++ rest)) = _
    rw [predicate_eq_testOf atom (.of_keyword isWord)]
    simp only [testOf, isWord.1, isKeyword_eq isWord, propertyWord_complete rest keywords, ok_bind]
    rfl

theorem atom_kind {fallback : Bool} {t : Token} {operand : Operand} (h : Atom fallback t operand) :
    t.kind ∈ [TokenKind.string, .number, .identifier] := by
  cases h with
  | string kind => simp [kind]
  | number kind _ _ => simp [kind]
  | null kind _ => simp [kind]
  | isTrue kind _ => simp [kind]
  | isFalse kind _ => simp [kind]
  | field field => simp [field.1]

/-- A test starts neither with a `!` nor with a parenthesis. -/
theorem test_head {ts : List Token} {tree : Tree} (h : Test ts tree) :
    ∃ t us, ts = t :: us ∧ t.kind ∈ [TokenKind.string, .number, .identifier] := by
  cases h with
  | property field => exact ⟨_, _, rfl, by simp [field.1]⟩
  | search field => exact ⟨_, _, rfl, by simp [field.1]⟩
  | compare atom => exact ⟨_, _, rfl, atom_kind atom⟩
  | oneOf atom => exact ⟨_, _, rfl, atom_kind atom⟩
  | notOneOf atom => exact ⟨_, _, rfl, atom_kind atom⟩
  | between atom => exact ⟨_, _, rfl, atom_kind atom⟩
  | like atom => exact ⟨_, _, rfl, atom_kind atom⟩
  | is atom => exact ⟨_, _, rfl, atom_kind atom⟩

/-! ## Boolean structure -/

theorem factor_test {ts rest : List Token} {tree : Tree} (h : Test ts tree) (apart : Apart [.dot] rest)
    (fuel : Nat) : ∃ node, node.tree = tree ∧ factor (fuel + 1) (ts ++ rest) = .ok (node, rest) := by
  obtain ⟨node, hn, read⟩ := predicate_complete h apart
  refine ⟨node, hn, ?_⟩
  obtain ⟨t, us, rfl, kind⟩ := test_head h
  rw [← read, List.cons_append, factor]
  split
  · next bang =>
    rw [bang] at kind
    exact absurd kind (by decide)
  · next opening =>
    rw [opening] at kind
    exact absurd kind (by decide)
  · rfl

/-- A conjunction ends the chain when no `||` follows. -/
theorem disjunction_last {fuel : Nat} {ts rest : List Token} {children : List Node}
    (read : conjunction fuel ts = .ok (children, rest)) (apart : Apart [.or] rest) :
    disjunction (fuel + 1) ts = .ok ([allOf children], rest) := by
  rw [disjunction, read, ok_bind]
  cases rest with
  | nil => rfl
  | cons t more =>
    have notOr : t.kind ≠ .or := fun or => apart.head (by simp [or])
    exact if_neg notOr

theorem disjunction_next {fuel : Nat} {ts more rest : List Token} {or : Token} {children others : List Node}
    (read : conjunction fuel ts = .ok (children, or :: more)) (kind : or.kind = .or)
    (behind : disjunction fuel more = .ok (others, rest)) :
    disjunction (fuel + 1) ts = .ok (allOf children :: others, rest) := by
  rw [disjunction, read, ok_bind]
  dsimp only
  rw [if_pos kind, behind]
  rfl

/-- A factor ends the chain when no `&&` follows. -/
theorem conjunction_last {fuel : Nat} {ts rest : List Token} {child : Node}
    (read : factor fuel ts = .ok (child, rest)) (apart : Apart [.and] rest) :
    conjunction (fuel + 1) ts = .ok ([child], rest) := by
  rw [conjunction, read, ok_bind]
  cases rest with
  | nil => rfl
  | cons t more =>
    have notAnd : t.kind ≠ .and := fun and => apart.head (by simp [and])
    exact if_neg notAnd

theorem conjunction_next {fuel : Nat} {ts more rest : List Token} {and : Token} {child : Node}
    {others : List Node} (read : factor fuel ts = .ok (child, and :: more)) (kind : and.kind = .and)
    (behind : conjunction fuel more = .ok (others, rest)) :
    conjunction (fuel + 1) ts = .ok (child :: others, rest) := by
  rw [conjunction, read, ok_bind]
  dsimp only
  rw [if_pos kind, behind]
  rfl

mutual

/-- The parser spends one unit of fuel on every level, and a token that opens a level anew pays for all
three. -/
theorem disjunction_complete {ts : List Token} {trees : List Tree} :
    Disjunction ts trees → ∀ (rest : List Token) (fuel : Nat), Apart [.dot, .and, .or] rest →
      3 * ts.length + 3 ≤ fuel →
      ∃ nodes, nodes.map Node.tree = trees ∧ disjunction fuel (ts ++ rest) = .ok (nodes, rest)
  | .one first, rest, fuel + 1, apart, enough => by
    obtain ⟨children, hc, read⟩ :=
      conjunction_complete first rest fuel (apart.mono (by decide)) (by omega)
    refine ⟨[allOf children], ?_, disjunction_last read (apart.mono (by decide))⟩
    rw [List.map_singleton, allOf_tree, hc]
  | @Disjunction.more _ us or _ _ first kind others, rest, fuel + 1, apart, enough => by
    rw [List.length_append, List.length_cons] at enough
    have ends : Apart [.dot, .and] (or :: (us ++ rest)) := apart_of_kind kind (by decide)
    obtain ⟨children, hc, read⟩ := conjunction_complete first _ fuel ends (by omega)
    obtain ⟨nodes, hn, behind⟩ := disjunction_complete others rest fuel apart (by omega)
    refine ⟨allOf children :: nodes, ?_, ?_⟩
    · rw [List.map_cons, allOf_tree, hc, hn]
    · rw [List.append_assoc]
      exact disjunction_next read kind behind

theorem conjunction_complete {ts : List Token} {trees : List Tree} :
    Conjunction ts trees → ∀ (rest : List Token) (fuel : Nat), Apart [.dot, .and] rest →
      3 * ts.length + 2 ≤ fuel →
      ∃ nodes, nodes.map Node.tree = trees ∧ conjunction fuel (ts ++ rest) = .ok (nodes, rest)
  | .one first, rest, fuel + 1, apart, enough => by
    obtain ⟨node, hn, read⟩ := factor_complete first rest fuel (apart.mono (by decide)) (by omega)
    refine ⟨[node], ?_, conjunction_last read (apart.mono (by decide))⟩
    rw [List.map_singleton, hn]
  | @Conjunction.more _ us and _ _ first kind others, rest, fuel + 1, apart, enough => by
    rw [List.length_append, List.length_cons] at enough
    have ends : Apart [.dot] (and :: (us ++ rest)) := apart_of_kind kind (by decide)
    obtain ⟨node, hn, read⟩ := factor_complete first _ fuel ends (by omega)
    obtain ⟨nodes, hns, behind⟩ := conjunction_complete others rest fuel apart (by omega)
    refine ⟨node :: nodes, ?_, ?_⟩
    · rw [List.map_cons, hn, hns]
    · rw [List.append_assoc]
      exact conjunction_next read kind behind

theorem factor_complete {ts : List Token} {tree : Tree} :
    Factor ts tree → ∀ (rest : List Token) (fuel : Nat), Apart [.dot] rest →
      3 * ts.length + 1 ≤ fuel →
      ∃ node, node.tree = tree ∧ factor fuel (ts ++ rest) = .ok (node, rest)
  | .not kind inner, rest, fuel + 1, apart, enough => by
    rw [List.length_cons] at enough
    obtain ⟨node, hn, read⟩ := factor_complete inner rest fuel apart (by omega)
    refine ⟨.not node, by rw [Node.tree, hn], ?_⟩
    rw [List.cons_append, factor, kind]
    dsimp only
    rw [read]
    rfl
  | @Factor.group _ closing _ _ openingKind inner closingKind, rest, fuel + 1, apart, enough => by
    rw [List.length_cons, List.length_append, List.length_singleton] at enough
    -- The closing parenthesis goes on with none of the levels inside.
    have ends : Apart [.dot, .and, .or] (closing :: rest) := apart_of_kind closingKind (by decide)
    obtain ⟨nodes, hn, read⟩ := disjunction_complete inner _ fuel ends (by omega)
    refine ⟨anyOf nodes, by rw [anyOf_tree, hn], ?_⟩
    rw [List.cons_append, List.append_assoc, List.singleton_append, factor, openingKind]
    dsimp only
    rw [read, ok_bind]
    dsimp only
    rw [expect, if_pos closingKind]
    rfl
  | .test test, rest, fuel + 1, apart, _ => factor_test test apart fuel

end

/-- What derives a tree is parsed to it. -/
theorem parseTokens_complete {ts : List Token} {tree : Tree} (h : Derives ts tree) :
    ∃ node, node.tree = tree ∧ parseTokens ts = .ok node := by
  obtain ⟨trees, derived, rfl⟩ := h
  obtain ⟨nodes, hn, read⟩ :=
    disjunction_complete derived [] (3 * ts.length + 3) (apart_nil _) (Nat.le_refl _)
  rw [List.append_nil] at read
  match ts with
  | [] => cases read
  | t :: behind =>
    refine ⟨anyOf nodes, by rw [anyOf_tree, hn], ?_⟩
    rw [parseTokens, ← List.length_cons, read]
    rfl

end FixedExtract.Expression
