import FixedExtract.Proofs.Expression.Complete
import FixedExtract.Proofs.Expression.Scanning
/-!
# The language of expressions

An expression is parsed exactly when its tokens derive a tree, and the tree is the one that is derived. Trees
that are parsed are well-formed, so that evaluating them never goes wrong.
-/

namespace FixedExtract.Expression

open Grammar

theorem tokens_eq_ok_iff {expression : Text} {ts : List Token} :
    tokens expression = .ok ts ↔ scan 0 expression = .ok ts := by
  unfold tokens
  cases scan 0 expression with
  | ok found => simp
  | error problem => simp

theorem numbersWritten_of_tokens {expression : Text} {ts : List Token} (h : tokens expression = .ok ts) :
    NumbersWritten ts :=
  fun t ht number => (scan_numbers (tokens_eq_ok_iff.1 h) t ht number).1

theorem parse_eq_ok_iff {expression : Text} {node : Node} :
    parse expression = .ok node ↔ ∃ ts, tokens expression = .ok ts ∧ parseTokens ts = .ok node := by
  unfold parse
  rw [bind_eq_ok_iff]
  refine exists_congr fun ts => and_congr_right fun _ => ?_
  cases parseTokens ts with
  | ok parsed =>
    constructor
    · intro h
      cases h
      rfl
    · intro h
      cases h
      rfl
  | error refusal => simp [throw, throwThe, MonadExceptOf.throw]

/-- The parser and the grammar agree, tree by tree. -/
theorem exists_parse_iff {expression : Text} {tree : Tree} :
    (∃ node, parse expression = .ok node ∧ node.tree = tree) ↔
      ∃ ts, tokens expression = .ok ts ∧ Derives ts tree := by
  constructor
  · rintro ⟨node, parsed, rfl⟩
    obtain ⟨ts, scanned, read⟩ := parse_eq_ok_iff.1 parsed
    exact ⟨ts, scanned, parseTokens_sound (numbersWritten_of_tokens scanned) read⟩
  · rintro ⟨ts, scanned, derived⟩
    obtain ⟨node, hn, read⟩ := parseTokens_complete derived
    exact ⟨node, parse_eq_ok_iff.2 ⟨ts, scanned, read⟩, hn⟩

theorem atom_number {fallback : Bool} {t : Token} {operand : Operand} (atom : Atom fallback t operand)
    (number : t.kind = .number) : Decimal.Written Text.isDecimalDigit t.text := by
  cases atom with
  | number _ inDecimal _ => exact inDecimal
  | string kind => cases kind.symm.trans number
  | null kind _ => cases kind.symm.trans number
  | isTrue kind _ => cases kind.symm.trans number
  | isFalse kind _ => cases kind.symm.trans number
  | field field => cases field.1.symm.trans number

/-- A number is an atom when its digits are decimal digits, provided it is no longer than the largest
exponent. -/
theorem number_atom_iff {t : Token} (fallback : Bool) (number : t.kind = .number)
    (written : Decimal.Written Text.isDigit t.text) (short : t.text.length ≤ 1000000000000000000) :
    (∃ operand, Atom fallback t operand) ↔
      ∀ c ∈ t.text, Text.isDigit c = true → Text.isDecimalDigit c = true := by
  constructor
  · rintro ⟨operand, atom⟩ c hc digit
    -- A digit of the number is neither its sign nor its point, so it is one of its decimal digits.
    have inDecimal := atom_number atom number
    rcases inDecimal.mem_cases hc with rfl | rfl | decimal
    · exact absurd digit (by decide)
    · exact absurd digit (by decide)
    · exact decimal
  · intro decimal
    have inDecimal := written.imp decimal
    obtain ⟨value, read⟩ := Option.isSome_iff_exists.1 (inDecimal.read?_isSome short)
    exact ⟨.number value t.text, .number number inDecimal read⟩

/-- A tree is parsed exactly when it is the one that the tokens derive, for its loose form is that of no
other tree. -/
theorem parse_eq_ok_iff_derives {expression : Text} {node : Node} :
    parse expression = .ok node ↔ ∃ ts, tokens expression = .ok ts ∧ Derives ts node.tree := by
  rw [← exists_parse_iff]
  constructor
  · intro parsed
    exact ⟨node, parsed, rfl⟩
  · rintro ⟨other, parsed, same⟩
    rw [parsed, Node.eq_of_tree_eq same]

/-- An expression is parsed exactly when it can be divided into tokens that derive a tree, and to the tree
that they derive. The numbers among the tokens are atoms when all their digits are decimal digits; only a
number of more digits than the largest exponent is none. -/
theorem parses_iff_derives (expression : Text) :
    (∀ tree, (∃ node, parse expression = .ok node ∧ node.tree = tree) ↔
      ∃ ts, tokens expression = .ok ts ∧ Derives ts tree) ∧
    (∀ node, parse expression = .ok node ↔
      ∃ ts, tokens expression = .ok ts ∧ Derives ts node.tree) ∧
    (expression.length ≤ 1000000000000000000 → ∀ ts, tokens expression = .ok ts →
      ∀ t ∈ ts, t.kind = .number → ∀ fallback, (∃ operand, Atom fallback t operand) ↔
        ∀ c ∈ t.text, Text.isDigit c = true → Text.isDecimalDigit c = true) := by
  refine ⟨fun tree => exists_parse_iff, fun node => parse_eq_ok_iff_derives, ?_⟩
  intro short ts scanned t ht number fallback
  obtain ⟨written, shorter⟩ := scan_numbers (tokens_eq_ok_iff.1 scanned) t ht number
  exact number_atom_iff fallback number written (Nat.le_trans shorter short)

end FixedExtract.Expression
