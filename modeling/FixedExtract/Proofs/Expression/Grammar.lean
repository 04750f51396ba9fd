import FixedExtract.Expression.Parser
import FixedExtract.Proofs.Decimal.Written
import FixedExtract.Proofs.Expression.Tree
/-!
# The grammar of expressions

    disjunction := conjunction ("||" conjunction)*
    conjunction := factor ("&&" factor)*
    factor      := "!" factor | "(" disjunction ")" | test
    test        := FIELD "." METHOD "(" [atom] ")"
                 | atom OPERATOR atom
                 | atom [NOT] IN "(" atom ("," atom)* ")"
                 | atom BETWEEN atom AND atom
                 | atom LIKE atom
                 | atom IS [NOT] (NULL | BLANK) | atom IS EMPTY

A derivation relates a list of tokens to the loose tree it denotes. Nothing here mentions the parser: a
keyword is an identifier in a certain place, and precedence is the nesting of the rules.
-/

namespace FixedExtract.Expression.Grammar

/-! ## Words and atoms -/

/-- A keyword is an identifier; its case does not matter. -/
def Keyword (word : Text) (t : Token) : Prop := t.kind = .identifier ∧ Text.upper t.text = word

/-- The words that are no fields, in lower case. -/
def literals : List Text := ["null", "true", "false"]

/-- A field is an identifier that is no literal, whatever its case. -/
def Field (t : Token) : Prop := t.kind = .identifier ∧ Text.lower t.text ∉ literals

/-- What a token stands for where an operand is wanted. A field keeps a mark where a bare word may be a
literal. -/
inductive Atom (fallback : Bool) : Token → Operand → Prop where
  | string {t : Token} : t.kind = .string → Atom fallback t (.string t.text)
  | number {t : Token} {value : Decimal} : t.kind = .number →
      Decimal.Written Text.isDecimalDigit t.text → Decimal.read? t.text = some value →
      Atom fallback t (.number value t.text)
  | null {t : Token} : t.kind = .identifier → Text.lower t.text = "null" → Atom fallback t .null
  | isTrue {t : Token} : t.kind = .identifier → Text.lower t.text = "true" →
      Atom fallback t (.boolean true)
  | isFalse {t : Token} : t.kind = .identifier → Text.lower t.text = "false" →
      Atom fallback t (.boolean false)
  | field {t : Token} : Field t → Atom fallback t (.field t.text fallback)

/-! ## Tests -/

/-- One atom or several, divided by commas. -/
inductive Options : List Token → List Operand → Prop where
  | one {t : Token} {option : Operand} : Atom true t option → Options [t] [option]
  | more {t comma : Token} {ts : List Token} {option : Operand} {others : List Operand} :
      Atom true t option → comma.kind = .comma → Options ts others →
      Options (t :: comma :: ts) (option :: others)

/-- The words that ask for a property behind `IS`. -/
def propertyWords : Property → List Text
  | .isNull => ["NULL"]
  | .isNotNull => ["NOT", "NULL"]
  | .isBlank => ["BLANK"]
  | .isNotBlank => ["NOT", "BLANK"]
  | .isEmpty => ["EMPTY"]

/-- A single equals sign means the same as two. -/
def operatorName (text : Text) : Text := if text = ['='] then ['=', '='] else text

inductive Test : List Token → Tree → Prop where
  | property {field dot name opening closing : Token} {p : Property} :
      Field field → dot.kind = .dot → name.kind = .identifier → name.text = p.name →
      opening.kind = .leftParen → closing.kind = .rightParen →
      Test [field, dot, name, opening, closing]
        (.call (.operand (.field field.text false)) name.text none)
  | search {field dot name opening part closing : Token} {o : Occurrence} {argument : Operand} :
      Field field → dot.kind = .dot → name.kind = .identifier → name.text = o.name →
      opening.kind = .leftParen → Atom false part argument → closing.kind = .rightParen →
      Test [field, dot, name, opening, part, closing]
        (.call (.operand (.field field.text false)) name.text (some (.operand argument)))
  | compare {a op b : Token} {left right : Operand} {c : Comparator} :
      Atom false a left → op.kind = .operator → operatorName op.text = c.symbol → Atom true b right →
      Test [a, op, b] (.compare (operatorName op.text) (.operand left) (.operand right))
  | oneOf {a word opening closing : Token} {ts : List Token} {left : Operand} {options : List Operand} :
      Atom false a left → Keyword "IN" word → opening.kind = .leftParen → Options ts options →
      closing.kind = .rightParen →
      Test (a :: word :: opening :: (ts ++ [closing])) (.oneOf (.operand left) (options.map .operand) false)
  | notOneOf {a negation word opening closing : Token} {ts : List Token} {left : Operand}
      {options : List Operand} :
      Atom false a left → Keyword "NOT" negation → Keyword "IN" word → opening.kind = .leftParen →
      Options ts options → closing.kind = .rightParen →
      Test (a :: negation :: word :: opening :: (ts ++ [closing]))
        (.oneOf (.operand left) (options.map .operand) true)
  | between {a word b conjunction c : Token} {left low high : Operand} :
      Atom false a left → Keyword "BETWEEN" word → Atom true b low → Keyword "AND" conjunction →
      Atom true c high →
      Test [a, word, b, conjunction, c] (.between (.operand left) (.operand low) (.operand high))
  | like {a word b : Token} {left pattern : Operand} :
      Atom false a left → Keyword "LIKE" word → Atom true b pattern →
      Test [a, word, b] (.like (.operand left) (.operand pattern))
  | is {a word : Token} {words : List Token} {left : Operand} {p : Property} :
      Atom false a left → Keyword "IS" word → List.Forall₂ Keyword (propertyWords p) words →
      Test (a :: word :: words) (.call (.operand left) p.name none)

/-! ## Boolean structure -/

mutual

/-- A disjunction denotes the trees that it divides into. -/
inductive Disjunction : List Token → List Tree → Prop where
  | one {ts : List Token} {children : List Tree} :
      Conjunction ts children → Disjunction ts [Tree.allOf children]
  | more {ts us : List Token} {or : Token} {children others : List Tree} :
      Conjunction ts children → or.kind = .or → Disjunction us others →
      Disjunction (ts ++ or :: us) (Tree.allOf children :: others)

inductive Conjunction : List Token → List Tree → Prop where
  | one {ts : List Token} {tree : Tree} : Factor ts tree → Conjunction ts [tree]
  | more {ts us : List Token} {and : Token} {tree : Tree} {others : List Tree} :
      Factor ts tree → and.kind = .and → Conjunction us others →
      Conjunction (ts ++ and :: us) (tree :: others)

inductive Factor : List Token → Tree → Prop where
  | not {bang : Token} {ts : List Token} {tree : Tree} :
      bang.kind = .bang → Factor ts tree → Factor (bang :: ts) (.not tree)
  | group {opening closing : Token} {ts : List Token} {children : List Tree} :
      opening.kind = .leftParen → Disjunction ts children → closing.kind = .rightParen →
      Factor (opening :: (ts ++ [closing])) (Tree.anyOf children)
  | test {ts : List Token} {tree : Tree} : Test ts tree → Factor ts tree

end

/-- The tokens of an expression derive it, and the derivation denotes the tree. -/
def Derives (ts : List Token) (tree : Tree) : Prop :=
  ∃ children, Disjunction ts children ∧ tree = Tree.anyOf children

/-! ## Derived trees are well-formed -/

theorem Test.wellFormed {ts : List Token} {tree : Tree} (h : Test ts tree) : tree.WellFormed := by
  have operands : ∀ {options : List Operand}, ∀ option ∈ options.map Tree.operand, option.IsOperand := by
    intro options option ho
    obtain ⟨o, -, rfl⟩ := List.mem_map.1 ho
    exact .operand o
  cases h with
  | property _ _ _ name _ _ =>
    rw [name]
    exact .property (.operand _)
  | search _ _ _ name _ _ _ =>
    rw [name]
    exact .search (.operand _) (.operand _)
  | compare _ _ name _ =>
    rw [name]
    exact .compare (.operand _) (.operand _)
  | oneOf => exact .oneOf (.operand _) operands
  | notOneOf => exact .oneOf (.operand _) operands
  | between => exact .between (.operand _) (.operand _) (.operand _)
  | like => exact .like (.operand _) (.operand _)
  | is => exact .property (.operand _)

theorem Disjunction.ne_nil {ts : List Token} {children : List Tree} (h : Disjunction ts children) :
    children ≠ [] := by
  cases h <;> simp

theorem Conjunction.ne_nil {ts : List Token} {children : List Tree} (h : Conjunction ts children) :
    children ≠ [] := by
  cases h <;> simp

mutual

theorem Disjunction.wellFormed {ts : List Token} {children : List Tree} :
    Disjunction ts children → ∀ child ∈ children, child.WellFormed
  | .one conjunction =>
    have first := Tree.wellFormed_allOf conjunction.ne_nil conjunction.wellFormed
    List.forall_mem_singleton.2 first
  | .more conjunction _ others =>
    have first := Tree.wellFormed_allOf conjunction.ne_nil conjunction.wellFormed
    List.forall_mem_cons.2 ⟨first, others.wellFormed⟩

theorem Conjunction.wellFormed {ts : List Token} {children : List Tree} :
    Conjunction ts children → ∀ child ∈ children, child.WellFormed
  | .one factor => List.forall_mem_singleton.2 factor.wellFormed
  | .more factor _ others => List.forall_mem_cons.2 ⟨factor.wellFormed, others.wellFormed⟩

theorem Factor.wellFormed {ts : List Token} {tree : Tree} : Factor ts tree → tree.WellFormed
  | .not _ factor => .not factor.wellFormed
  | .group _ disjunction _ => Tree.wellFormed_anyOf disjunction.ne_nil disjunction.wellFormed
  | .test test => test.wellFormed

end

theorem Derives.wellFormed {ts : List Token} {tree : Tree} (h : Derives ts tree) : tree.WellFormed := by
  obtain ⟨children, disjunction, rfl⟩ := h
  exact Tree.wellFormed_anyOf disjunction.ne_nil disjunction.wellFormed

/-- A disjunction goes on with another one. -/
theorem Disjunction.append {ts us : List Token} {or : Token} {children others : List Tree} :
    Disjunction ts children → or.kind = .or → Disjunction us others →
    Disjunction (ts ++ or :: us) (children ++ others)
  | .one first, kind, also => .more first kind also
  | .more first between behind, kind, also => by
    rw [List.append_assoc, List.cons_append, List.cons_append]
    exact .more first between (behind.append kind also)

/-! ## Derivations do not look at positions -/

/-- The map changes nothing of a token but its position. -/
structure Keeps (f : Token → Token) : Prop where
  kind (t : Token) : (f t).kind = t.kind
  text (t : Token) : (f t).text = t.text

section
variable {f : Token → Token} (keeps : Keeps f)
include keeps

theorem Keyword.map {word : Text} {t : Token} (h : Keyword word t) : Keyword word (f t) := by
  rw [Keyword, keeps.kind, keeps.text]
  exact h

theorem Field.map {t : Token} (h : Field t) : Field (f t) := by
  rw [Field, keeps.kind, keeps.text]
  exact h

theorem Atom.map {fallback : Bool} {t : Token} {operand : Operand} (h : Atom fallback t operand) :
    Atom fallback (f t) operand := by
  cases h with
  | string string =>
    rw [← keeps.text]
    exact .string ((keeps.kind t).trans string)
  | number number written read =>
    rw [← keeps.text] at written read ⊢
    exact .number ((keeps.kind t).trans number) written read
  | null identifier word => exact .null ((keeps.kind t).trans identifier) (by rw [keeps.text, word])
  | isTrue identifier word => exact .isTrue ((keeps.kind t).trans identifier) (by rw [keeps.text, word])
  | isFalse identifier word => exact .isFalse ((keeps.kind t).trans identifier) (by rw [keeps.text, word])
  | field field =>
    rw [← keeps.text]
    exact .field (field.map keeps)

theorem Options.map {ts : List Token} {options : List Operand} (h : Options ts options) :
    Options (ts.map f) options := by
  induction h with
  | one atom => exact .one (atom.map keeps)
  | more atom divides _ ih => exact .more (atom.map keeps) ((keeps.kind _).trans divides) ih

theorem Test.map {ts : List Token} {tree : Tree} (h : Test ts tree) : Test (ts.map f) tree := by
  cases h with
  | @property field _ name _ _ _ isField dot nameKind named opening closing =>
    rw [← keeps.text field, ← keeps.text name]
    exact .property (isField.map keeps) ((keeps.kind _).trans dot) ((keeps.kind _).trans nameKind)
      ((keeps.text _).trans named) ((keeps.kind _).trans opening) ((keeps.kind _).trans closing)
  | @search field _ name _ _ _ _ _ isField dot nameKind named opening part closing =>
    rw [← keeps.text field, ← keeps.text name]
    exact .search (isField.map keeps) ((keeps.kind _).trans dot) ((keeps.kind _).trans nameKind)
      ((keeps.text _).trans named) ((keeps.kind _).trans opening) (part.map keeps)
      ((keeps.kind _).trans closing)
  | @compare _ op _ _ _ _ left operator name right =>
    rw [← keeps.text op] at name ⊢
    exact .compare (left.map keeps) ((keeps.kind _).trans operator) name (right.map keeps)
  | oneOf left word opening options closing =>
    simp only [List.map_cons, List.map_append, List.map_nil]
    exact .oneOf (left.map keeps) (word.map keeps) ((keeps.kind _).trans opening)
      (options.map keeps) ((keeps.kind _).trans closing)
  | notOneOf left negation word opening options closing =>
    simp only [List.map_cons, List.map_append, List.map_nil]
    exact .notOneOf (left.map keeps) (negation.map keeps) (word.map keeps)
      ((keeps.kind _).trans opening) (options.map keeps) ((keeps.kind _).trans closing)
  | between left word low conjunction high =>
    exact .between (left.map keeps) (word.map keeps) (low.map keeps)
      (conjunction.map keeps) (high.map keeps)
  | like left word pattern =>
    exact .like (left.map keeps) (word.map keeps) (pattern.map keeps)
  | is left word words =>
    refine .is (left.map keeps) (word.map keeps) ?_
    exact List.forall₂_map_right_iff.2 (words.imp fun _ _ keyword => keyword.map keeps)

mutual

theorem Disjunction.map {ts : List Token} {children : List Tree} :
    Disjunction ts children → Disjunction (ts.map f) children
  | .one first => .one first.map
  | .more first or others => by
    rw [List.map_append, List.map_cons]
    exact .more first.map ((keeps.kind _).trans or) others.map

theorem Conjunction.map {ts : List Token} {children : List Tree} :
    Conjunction ts children → Conjunction (ts.map f) children
  | .one first => .one first.map
  | .more first and others => by
    rw [List.map_append, List.map_cons]
    exact .more first.map ((keeps.kind _).trans and) others.map

theorem Factor.map {ts : List Token} {tree : Tree} : Factor ts tree → Factor (ts.map f) tree
  | .not bang inner => .not ((keeps.kind _).trans bang) inner.map
  | .group opening inner closing => by
    rw [List.map_cons, List.map_append, List.map_singleton]
    exact .group ((keeps.kind _).trans opening) inner.map ((keeps.kind _).trans closing)
  | .test test => .test (test.map keeps)

end

theorem Derives.map {ts : List Token} {tree : Tree} (h : Derives ts tree) : Derives (ts.map f) tree := by
  obtain ⟨children, disjunction, rfl⟩ := h
  exact ⟨children, disjunction.map keeps, rfl⟩

end

end FixedExtract.Expression.Grammar
