import FixedExtract.Proofs.Expression.Composition
/-!
# Operands and tests as they are spelled

An operand is spelled as a text of one token. Words put beside each other with spaces between them stay the tokens
they are, so that the texts of tests can be made from the texts of their operands, and the texts of chains from those
of tests. What such a text is evaluated to is what the tree is evaluated to that it spells.
-/

namespace FixedExtract.Expression

open Grammar

variable {text rest word : Text} {record : Record}

/-! ## Tokens of texts, wherever they start -/

/-- Wherever the text starts, it has tokens of this sort. -/
def Scans (text : Text) (sort : List Token → Prop) : Prop :=
  ∀ position, ∃ ts, scan position text = .ok ts ∧ sort ts

/-- Wherever the text starts, it is one token, of this sort. -/
def IsToken (text : Text) (sort : Token → Prop) : Prop := Scans text fun ts => ∃ t, ts = [t] ∧ sort t

/-- A first token of one sort, and tokens of another sort behind it. -/
def Then (first : Token → Prop) (behind : List Token → Prop) : List Token → Prop
  | [] => False
  | t :: ts => first t ∧ behind ts

section
variable {first : Token → Prop} {sort other : List Token → Prop}

theorem Scans.imp (h : Scans text sort) (imp : ∀ ts, sort ts → other ts) : Scans text other := by
  intro position
  obtain ⟨ts, scanned, hs⟩ := h position
  exact ⟨ts, scanned, imp ts hs⟩

theorem IsToken.scans (h : IsToken text first) : Scans text (Then first (· = [])) := by
  refine Scans.imp h ?_
  rintro _ ⟨t, rfl, ht⟩
  exact ⟨ht, rfl⟩

/-- Text behind a seam is scanned by itself. -/
theorem Scans.append (front : Scans text sort) (seam : Seam rest) (behind : Scans rest other) :
    Scans (text ++ rest) fun ts => ∃ us vs, ts = us ++ vs ∧ sort us ∧ other vs := by
  intro position
  obtain ⟨us, frontScanned, hu⟩ := front position
  obtain ⟨vs, restScanned, hv⟩ := behind (position + text.length)
  refine ⟨us ++ vs, ?_, us, vs, rfl, hu, hv⟩
  rw [scan_append seam (.inl ⟨us, frontScanned⟩), frontScanned, ok_bind, restScanned]
  rfl

theorem Scans.space (h : Scans rest sort) : Scans (' ' :: rest) sort := by
  intro position
  rw [scan_space (by decide)]
  exact h (position + 1)

/-- A token, a space, and what follows. -/
theorem IsToken.before (front : IsToken text first) (behind : Scans rest sort) :
    Scans (text ++ ' ' :: rest) (Then first sort) := by
  refine (Scans.append front (seam_cons breaks_space rest) behind.space).imp ?_
  rintro _ ⟨_, vs, rfl, ⟨t, rfl, ht⟩, hv⟩
  exact ⟨ht, hv⟩

/-- A sign is a token whatever follows it. -/
theorem Scans.sign {c : Char} {kind : TokenKind} (space : Text.isSpace c = false)
    (lexes : ∀ rest, lexeme c rest = .ok ⟨kind, [c], rest⟩) (behind : Scans rest sort) :
    Scans (c :: rest) (Then (·.kind = kind) sort) := by
  intro position
  obtain ⟨ts, scanned, hs⟩ := behind (position + 1)
  refine ⟨⟨kind, [c], position⟩ :: ts, ?_, rfl, hs⟩
  rw [scan_single space (lexes rest), scanned]
  rfl

/-- A word that is one token at the front of an expression is one wherever it starts. -/
theorem isToken_of_scan {t : Token} (scanned : scan 0 word = .ok [t])
    (sort : ∀ distance, first (t.moved distance)) : IsToken word first := by
  intro position
  refine ⟨[t.moved position], ?_, _, rfl, sort position⟩
  have moved := scan_moved position scanned
  rwa [Nat.zero_add] at moved

/-- The keywords, in upper case. -/
def keywords : List Text := ["NOT", "IN", "BETWEEN", "AND", "LIKE", "IS", "NULL", "BLANK", "EMPTY"]

theorem isToken_keyword (known : word ∈ keywords) : IsToken word (Keyword word) := by
  have scanned : ∀ word ∈ keywords,
      scan 0 word = .ok [⟨.identifier, word, 0⟩] ∧ Text.upper word = word := by decide +kernel
  obtain ⟨alone, upper⟩ := scanned word known
  exact isToken_of_scan alone fun _ => ⟨rfl, upper⟩

theorem isToken_not : IsToken "NOT" (Keyword "NOT") := isToken_keyword (by decide)

theorem isToken_in : IsToken "IN" (Keyword "IN") := isToken_keyword (by decide)

theorem isToken_is : IsToken "IS" (Keyword "IS") := isToken_keyword (by decide)

end

/-! ## Lists of texts -/

/-- Tokens of two sorts, divided by one of a kind. -/
def Divided (kind : TokenKind) (sort other : List Token → Prop) (ts : List Token) : Prop :=
  ∃ us t vs, ts = us ++ t :: vs ∧ sort us ∧ t.kind = kind ∧ other vs

/-- The separator is a token of this kind between any two texts. -/
def IsSeparator (separator : Text) (kind : TokenKind) : Prop :=
  ∀ {text rest : Text} {sort other : List Token → Prop}, Scans text sort → Scans rest other →
    Scans (text ++ (separator ++ rest)) (Divided kind sort other)

theorem lexeme_comma (rest : Text) : lexeme ',' rest = .ok ⟨.comma, [','], rest⟩ := by
  cases rest <;> rfl

theorem breaks_comma : Breaks ',' :=
  ⟨by decide +kernel, by decide, doubleKind?_eq_none ⟨by decide, by decide, by decide⟩⟩

theorem isSeparator_comma : IsSeparator ", " .comma := by
  intro text rest sort other front behind
  refine (front.append (seam_cons breaks_comma _) (behind.space.sign (by decide) lexeme_comma)).imp ?_
  rintro _ ⟨us, vs, rfl, hu, divided⟩
  match vs, divided with
  | comma :: vs, ⟨kind, hv⟩ => exact ⟨us, comma, vs, rfl, hu, kind, hv⟩

/-- A doubled sign with spaces around it is a separator. -/
theorem isSeparator_doubled {c : Char} {kind : TokenKind} (space : Text.isSpace c = false)
    (lexes : ∀ rest, lexeme c (c :: ' ' :: rest) = .ok ⟨kind, [c, c], ' ' :: rest⟩) :
    IsSeparator [' ', c, c, ' '] kind := by
  intro text rest sort other front behind
  have separated : Scans (' ' :: c :: c :: ' ' :: rest) fun ts => ∃ t vs, ts = t :: vs ∧ t.kind = kind ∧ other vs := by
    intro position
    obtain ⟨vs, scanned, hv⟩ := behind (position + 4)
    refine ⟨⟨kind, [c, c], position + 1⟩ :: vs, ?_, _, vs, rfl, rfl, hv⟩
    rw [scan_separator space (lexes rest), scanned]
    rfl
  refine (front.append (seam_cons breaks_space _) separated).imp ?_
  rintro _ ⟨us, _, rfl, hu, t, vs, rfl, kind, hv⟩
  exact ⟨us, t, vs, rfl, hu, kind, hv⟩

theorem isSeparator_or : IsSeparator " || " .or := isSeparator_doubled (by decide) fun _ => rfl

theorem isSeparator_and : IsSeparator " && " .and := isSeparator_doubled (by decide) fun _ => rfl

/-- Texts with separators between them have tokens of a sort that goes on over the separators. -/
theorem scans_join {α : Type} {separator : Text} {kind : TokenKind} {spelled : α → Text}
    {sort : α → List Token → Prop} (listSort : List α → List Token → Prop) (divides : IsSeparator separator kind)
    (one : ∀ a ts, sort a ts → listSort [a] ts)
    (more : ∀ a others ts, Divided kind (sort a) (listSort others) ts → listSort (a :: others) ts) :
    ∀ {list : List α}, (∀ a ∈ list, Scans (spelled a) (sort a)) → list ≠ [] →
      Scans (Text.join separator (list.map spelled)) (listSort list)
  | [a], each, _ => by
    have alone : Scans (spelled a) (sort a) := each a List.mem_cons_self
    rw [List.map_singleton, Text.join, List.intercalate_singleton]
    exact alone.imp (one a)
  | a :: b :: others, each, _ => by
    obtain ⟨first, behind⟩ := List.forall_mem_cons.1 each
    rw [List.map_cons, List.map_cons, Text.join, List.intercalate_cons_cons, List.append_assoc, ← List.map_cons]
    exact (divides first (scans_join listSort divides one more behind (List.cons_ne_nil _ _))).imp (more a _)

/-- Tokens of a sort in parentheses. -/
def Parenthesized (sort : List Token → Prop) (ts : List Token) : Prop :=
  ∃ opening us closing, ts = opening :: (us ++ [closing]) ∧ opening.kind = .leftParen ∧ sort us ∧
    closing.kind = .rightParen

theorem Scans.parenthesized {sort : List Token → Prop} (inside : Scans text sort) :
    Scans ('(' :: (text ++ ")")) (Parenthesized sort) := by
  have closes : Scans [')'] (Then (·.kind = .rightParen) (· = [])) :=
    Scans.sign (by decide) lexeme_rightParen fun position => ⟨[], scan_nil position, rfl⟩
  have closed := inside.append (seam_cons breaks_rightParen []) closes
  refine (Scans.sign (by decide) lexeme_leftParen closed).imp ?_
  intro ts sorted
  match ts, sorted with
  | opening :: _, ⟨kind, us, [closing], rfl, sorted, closingKind, _⟩ =>
    exact ⟨opening, us, closing, rfl, kind, sorted, closingKind⟩

/-! ## Operands -/

/-- The operand that is meant where a bare word may be a literal. -/
def Operand.onRight : Operand → Operand
  | .field name _ => .field name true
  | operand => operand

/-- An operand as it is spelled: a text of one token that stands for it. -/
structure Spelling where
  text : Text
  operand : Operand
  isAtom : IsToken text fun t => Atom false t operand

/-- A text that is scanned as one token spells what the token stands for. -/
def Spelling.ofToken {t : Token} {operand : Operand} (scanned : scan 0 text = .ok [t])
    (atom : Atom false t operand) : Spelling :=
  ⟨text, operand, isToken_of_scan scanned fun distance => atom.map (keeps_moved distance)⟩

theorem Grammar.Atom.onRight {t : Token} {operand : Operand} (atom : Atom false t operand) :
    Atom true t operand.onRight := by
  cases atom with
  | string kind => exact .string kind
  | number kind written read => exact .number kind written read
  | null kind isNull => exact .null kind isNull
  | isTrue kind word => exact .isTrue kind word
  | isFalse kind word => exact .isFalse kind word
  | field field => exact .field field

theorem Spelling.onRight (x : Spelling) : IsToken x.text fun t => Atom true t x.operand.onRight := by
  refine Scans.imp x.isAtom ?_
  rintro _ ⟨t, rfl, atom⟩
  exact ⟨t, rfl, atom.onRight⟩

/-- On the left, no field has the mark of a word that may be a literal. -/
theorem Spelling.unmarked {x : Spelling} {name : Text} {fallback : Bool} (h : x.operand = .field name fallback) :
    fallback = false := by
  obtain ⟨_, -, t, -, atom⟩ := x.isAtom 0
  rw [h] at atom
  cases atom
  rfl

/-- The texts of operands, divided by commas. -/
def listText (options : List Spelling) : Text := Text.join ", " (options.map Spelling.text)

theorem scans_listText {options : List Spelling} (some : options ≠ []) :
    Scans (listText options) (Options · (options.map fun o => o.operand.onRight)) := by
  refine scans_join (fun list ts => Options ts (list.map fun o => o.operand.onRight)) isSeparator_comma
    ?_ ?_ (fun o _ => o.onRight) some
  · rintro o _ ⟨t, rfl, atom⟩
    exact .one atom
  · rintro o others _ ⟨_, comma, _, rfl, ⟨t, rfl, atom⟩, kind, derived⟩
    exact .more atom kind derived

/-! ## Tests -/

/-- Wherever the text starts, its tokens are those of a test with this tree. -/
def Spells (text : Text) (node : Node) : Prop := Scans text fun ts => Test ts node.tree

theorem isToken_symbol (c : Comparator) :
    IsToken c.symbol fun t => t.kind = .operator ∧ operatorName t.text = c.symbol := by
  have scanned : scan 0 c.symbol = .ok [⟨.operator, c.symbol, 0⟩] := by
    cases c <;> decide +kernel
  have named : operatorName c.symbol = c.symbol := by
    cases c <;> decide
  exact isToken_of_scan scanned fun _ => ⟨rfl, named⟩

theorem spells_compare (c : Comparator) {sign : Text} (spaced : sign = " " ++ c.symbol ++ " ") (x y : Spelling) :
    Spells (x.text ++ sign ++ y.text) (.compare c x.operand y.operand.onRight) := by
  have words : x.text ++ sign ++ y.text = x.text ++ ' ' :: (c.symbol ++ ' ' :: y.text) := by simp [spaced]
  rw [words]
  refine (x.isAtom.before ((isToken_symbol c).before y.onRight.scans)).imp ?_
  intro ts sorted
  match ts, sorted with
  | [_, op, _], ⟨left, ⟨kind, name⟩, right, _⟩ =>
    have test := Test.compare left kind name right
    rwa [name] at test

theorem spells_oneOf (x : Spelling) {options : List Spelling} (some : options ≠ []) :
    Spells (x.text ++ " IN (" ++ listText options ++ ")")
      (.oneOf x.operand (options.map fun o => o.operand.onRight) false) := by
  have words : x.text ++ " IN (" ++ listText options ++ ")" =
      x.text ++ ' ' :: ("IN" ++ ' ' :: '(' :: (listText options ++ ")")) := by simp
  rw [words]
  refine (x.isAtom.before (isToken_in.before (scans_listText some).parenthesized)).imp ?_
  intro ts sorted
  match ts, sorted with
  | _ :: _ :: _, ⟨atom, word, _, _, _, rfl, openingKind, derived, closingKind⟩ =>
    exact .oneOf atom word openingKind derived closingKind

theorem spells_notOneOf (x : Spelling) {options : List Spelling} (some : options ≠ []) :
    Spells (x.text ++ " NOT IN (" ++ listText options ++ ")")
      (.oneOf x.operand (options.map fun o => o.operand.onRight) true) := by
  have words : x.text ++ " NOT IN (" ++ listText options ++ ")" =
      x.text ++ ' ' :: ("NOT" ++ ' ' :: ("IN" ++ ' ' :: '(' :: (listText options ++ ")"))) := by simp
  rw [words]
  refine (x.isAtom.before (isToken_not.before (isToken_in.before (scans_listText some).parenthesized))).imp ?_
  intro ts sorted
  match ts, sorted with
  | _ :: _ :: _ :: _, ⟨atom, negation, word, _, _, _, rfl, openingKind, derived, closingKind⟩ =>
    exact .notOneOf atom negation word openingKind derived closingKind

theorem spells_between (x low high : Spelling) :
    Spells (x.text ++ " BETWEEN " ++ low.text ++ " AND " ++ high.text)
      (.between x.operand low.operand.onRight high.operand.onRight) := by
  have words : x.text ++ " BETWEEN " ++ low.text ++ " AND " ++ high.text =
      x.text ++ ' ' :: ("BETWEEN" ++ ' ' :: (low.text ++ ' ' :: ("AND" ++ ' ' :: high.text))) := by simp
  have betweenWord : IsToken "BETWEEN" (Keyword "BETWEEN") := isToken_keyword (by decide)
  have andWord : IsToken "AND" (Keyword "AND") := isToken_keyword (by decide)
  rw [words]
  refine (x.isAtom.before (betweenWord.before (low.onRight.before (andWord.before high.onRight.scans)))).imp ?_
  intro ts sorted
  match ts, sorted with
  | [_, _, _, _, _], ⟨atom, word, lowAtom, conjunction, highAtom, _⟩ =>
    exact .between atom word lowAtom conjunction highAtom

/-- Words behind `IS` that ask for a property. -/
theorem spells_is (x : Spelling) {behind : Text} {p : Property}
    (asks : Scans behind (List.Forall₂ Keyword (propertyWords p))) :
    Spells (x.text ++ " IS " ++ behind) (.check x.operand p) := by
  have words : x.text ++ " IS " ++ behind = x.text ++ ' ' :: ("IS" ++ ' ' :: behind) := by simp
  rw [words]
  refine (x.isAtom.before (isToken_is.before asks)).imp ?_
  intro ts sorted
  match ts, sorted with
  | _ :: _ :: _, ⟨atom, word, keywords⟩ => exact .is atom word keywords

/-! ## What texts are evaluated to -/

theorem denotes_of_scans {tree : Tree} (h : Scans text (Derives · tree)) : Denotes text tree := by
  obtain ⟨ts, scanned, derived⟩ := h 0
  exact ⟨0, ts, scanned, derived⟩

/-- A text that spells a test is evaluated to what the test comes to. -/
theorem Spells.evaluate {node : Node} (h : Spells text node) (record : Record) :
    Layout.evaluate record text = .ok (node.holds record) := by
  have denotes : Denotes text node.tree :=
    denotes_of_scans (Scans.imp h fun _ test => derives_of_factor (.test test))
  exact denotes.evaluate (Tree.evaluate_tree record node)

section
variable {α : Type} {spelled : α → Text} {node : α → Node} {list : List α}

theorem anyHolds_map (list : List α) : anyHolds record (list.map node) = list.any fun a => (node a).holds record := by
  induction list with
  | nil => rfl
  | cons a rest ih => rw [List.map_cons, anyHolds, ih, List.any_cons]

theorem allHold_map (list : List α) : allHold record (list.map node) = list.all fun a => (node a).holds record := by
  induction list with
  | nil => rfl
  | cons a rest ih => rw [List.map_cons, allHold, ih, List.all_cons]

theorem holds_anyOf (nodes : List Node) : (anyOf nodes).holds record = anyHolds record nodes := by
  match nodes with
  | [] => rfl
  | [node] => rw [anyOf, anyHolds, anyHolds, Bool.or_false]
  | _ :: _ :: _ => rw [anyOf, Node.holds]; simp

theorem holds_allOf (nodes : List Node) : (allOf nodes).holds record = allHold record nodes := by
  match nodes with
  | [] => rfl
  | [node] => rw [allOf, allHold, allHold, Bool.and_true]
  | _ :: _ :: _ => rw [allOf, Node.holds]; simp

/-- A chain of tests with `||` between them. -/
theorem evaluate_disjunction (spells : ∀ a ∈ list, Spells (spelled a) (node a)) (some : list ≠ []) (record : Record) :
    Layout.evaluate record (Text.join " || " (list.map spelled)) = .ok (list.any fun a => (node a).holds record) := by
  have scans : Scans (Text.join " || " (list.map spelled))
      (Disjunction · (list.map fun a => (node a).tree)) := by
    refine scans_join (fun list ts => Disjunction ts (list.map fun a => (node a).tree)) isSeparator_or
      ?_ ?_ spells some
    · exact fun _ _ test => .one (.one (.test test))
    · rintro a others _ ⟨us, or, vs, rfl, test, kind, derived⟩
      exact .more (.one (.test test)) kind derived
  have denotes : Denotes (Text.join " || " (list.map spelled)) (anyOf (list.map node)).tree := by
    rw [anyOf_tree, List.map_map]
    exact denotes_of_scans (scans.imp fun _ derived => ⟨_, derived, rfl⟩)
  rw [denotes.evaluate (Tree.evaluate_tree record _), holds_anyOf, anyHolds_map]

/-- A chain of tests with `&&` between them. -/
theorem evaluate_conjunction (spells : ∀ a ∈ list, Spells (spelled a) (node a)) (some : list ≠ []) (record : Record) :
    Layout.evaluate record (Text.join " && " (list.map spelled)) = .ok (list.all fun a => (node a).holds record) := by
  have scans : Scans (Text.join " && " (list.map spelled))
      (Conjunction · (list.map fun a => (node a).tree)) := by
    refine scans_join (fun list ts => Conjunction ts (list.map fun a => (node a).tree)) isSeparator_and
      ?_ ?_ spells some
    · exact fun _ _ test => .one (.test test)
    · rintro a others _ ⟨us, and, vs, rfl, test, kind, derived⟩
      exact .more (.test test) kind derived
  have denotes : Denotes (Text.join " && " (list.map spelled)) (allOf (list.map node)).tree := by
    rw [allOf_tree, List.map_map]
    exact denotes_of_scans (scans.imp fun _ derived => ⟨_, .one derived, rfl⟩)
  rw [denotes.evaluate (Tree.evaluate_tree record _), holds_allOf, allHold_map]

end

end FixedExtract.Expression
