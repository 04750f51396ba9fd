import FixedExtract.Expression.Node
import FixedExtract.Layout.Branch
import FixedExtract.Proofs.Expression.Language
import FixedExtract.Proofs.Ordering
/-!
# What an expression may depend on

An expression reads the fields that it names and no others. So two records that agree on these fields, both on
whether a field is there and on its text, cannot be told apart by it. That the text agrees is not enough: a
word that may be a literal stands for itself only in records without a field of that name.
-/

namespace FixedExtract

/-- The records agree on a field: it is in both or in neither, and its text is the same. -/
structure Record.SameField (record other : Record) (name : Text) : Prop where
  has : record.has name = other.has name
  text : record.text? name = other.text? name

/-- The record without the fields that have other names. -/
def Record.restrict (names : List Text) (record : Record) : Record :=
  record.filter fun field => names.elem field.1

theorem Record.get?_restrict {names : List Text} {name : Text} (h : name ∈ names) (record : Record) :
    (record.restrict names).get? name = record.get? name := by
  unfold Record.restrict Record.get?
  induction record with
  | nil => rfl
  | cons field rest ih =>
    obtain ⟨key, value⟩ := field
    by_cases same : name = key
    · subst same
      rw [List.filter_cons, if_pos (List.elem_iff.2 h), List.lookup_cons_self, List.lookup_cons_self]
    · have other : (name == key) = false := beq_false_of_ne same
      rw [List.filter_cons]
      split
      · rw [List.lookup_cons, List.lookup_cons, other, ih]
      · rw [List.lookup_cons, other, ih]

/-- Records with the same value of a field agree on it. -/
theorem Record.SameField.of_get? {record other : Record} {name : Text}
    (h : record.get? name = other.get? name) : record.SameField other name := by
  refine ⟨?_, ?_⟩
  · rw [Record.has, Record.has, h]
  · rw [Record.text?, Record.text?, h]

namespace Expression

variable {record other : Record}

/-! ## Operands -/

theorem Operand.text?_congr {operand : Operand}
    (agree : ∀ name ∈ operand.fields, record.SameField other name) :
    operand.text? record = operand.text? other := by
  cases operand with
  | field name fallback =>
    have same := agree name (List.mem_singleton_self name)
    rw [Operand.text?, Operand.text?, same.has, same.text]
  | string _ | number _ _ | boolean _ | null => rfl

theorem Operand.decimal?_congr {operand : Operand}
    (agree : ∀ name ∈ operand.fields, record.SameField other name) :
    operand.decimal? record = operand.decimal? other := by
  rw [Operand.decimal?, Operand.decimal?, Operand.text?_congr agree]

/-! ## Tests -/

section
variable {left right : Operand} (agreeLeft : ∀ name ∈ left.fields, record.SameField other name)
  (agreeRight : ∀ name ∈ right.fields, record.SameField other name)
include agreeLeft agreeRight

theorem equalFor_congr : equalFor record left right = equalFor other left right := by
  rw [equalFor, equalFor, Operand.text?_congr agreeLeft, Operand.text?_congr agreeRight]

theorem isEqual_congr : isEqual record left right = isEqual other left right := by
  rw [isEqual, isEqual, Operand.text?_congr agreeLeft, Operand.text?_congr agreeRight,
    equalFor_congr agreeLeft agreeRight]

theorem ordered_congr (test : Decimal → Decimal → Bool) :
    ordered record test left right = ordered other test left right := by
  rw [ordered, ordered, Operand.decimal?_congr agreeLeft, Operand.decimal?_congr agreeRight]

theorem Comparator.holds_congr (op : Comparator) : op.holds record left right = op.holds other left right := by
  cases op with
  | equal => exact isEqual_congr agreeLeft agreeRight
  | notEqual => exact congrArg not (isEqual_congr agreeLeft agreeRight)
  | greater | less | greaterOrEqual | lessOrEqual => exact ordered_congr agreeLeft agreeRight _

theorem isLike_congr : isLike record left right = isLike other left right := by
  rw [isLike, isLike, Operand.text?_congr agreeLeft, Operand.text?_congr agreeRight]

end

theorem isOneOf_congr {operand : Operand} {options : List Operand}
    (agreeOperand : ∀ name ∈ operand.fields, record.SameField other name)
    (agreeOptions : ∀ name ∈ options.flatMap Operand.fields, record.SameField other name) :
    isOneOf record operand options = isOneOf other operand options := by
  unfold isOneOf
  induction options with
  | nil => rfl
  | cons option rest ih =>
    rw [List.flatMap_cons] at agreeOptions
    have first := equalFor_congr agreeOperand fun name h => agreeOptions name (List.mem_append_left _ h)
    have later := ih fun name h => agreeOptions name (List.mem_append_right _ h)
    rw [List.any_cons, List.any_cons, first, later]

theorem isBetween_congr {operand low high : Operand}
    (agreeOperand : ∀ name ∈ operand.fields, record.SameField other name)
    (agreeLow : ∀ name ∈ low.fields, record.SameField other name)
    (agreeHigh : ∀ name ∈ high.fields, record.SameField other name) :
    isBetween record operand low high = isBetween other operand low high := by
  rw [isBetween, isBetween, Operand.decimal?_congr agreeOperand, Operand.decimal?_congr agreeLow,
    Operand.decimal?_congr agreeHigh]

/-! ## Trees -/

mutual

/-- A tree holds for both or for neither of two records that agree on the fields in it. -/
theorem Node.holds_congr {node : Node} (agree : ∀ name ∈ node.fields, record.SameField other name) :
    node.holds record = node.holds other := by
  match node with
  | .compare op left right =>
    rw [Node.fields, List.forall_mem_append] at agree
    exact Comparator.holds_congr agree.1 agree.2 op
  | .check target property =>
    rw [Node.holds, Node.holds, Operand.text?_congr agree]
  | .search target occurrence argument =>
    rw [Node.fields, List.forall_mem_append] at agree
    rw [Node.holds, Node.holds, Operand.text?_congr agree.1, Operand.text?_congr agree.2]
  | .oneOf operand options negated =>
    rw [Node.fields, List.forall_mem_append] at agree
    rw [Node.holds, Node.holds, isOneOf_congr agree.1 agree.2]
  | .between operand low high =>
    rw [Node.fields, List.forall_mem_append, List.forall_mem_append] at agree
    exact isBetween_congr agree.1.1 agree.1.2 agree.2
  | .like operand pattern =>
    rw [Node.fields, List.forall_mem_append] at agree
    exact isLike_congr agree.1 agree.2
  | .not inner =>
    have same : inner.holds record = inner.holds other := Node.holds_congr agree
    rw [Node.holds, Node.holds, same]
  | .all children => exact allHold_congr agree
  | .any children => exact anyHolds_congr agree

theorem allHold_congr {nodes : List Node} (agree : ∀ name ∈ fieldsOfAll nodes, record.SameField other name) :
    allHold record nodes = allHold other nodes := by
  match nodes with
  | [] => rfl
  | node :: rest =>
    rw [fieldsOfAll, List.forall_mem_append] at agree
    rw [allHold, allHold, Node.holds_congr agree.1, allHold_congr agree.2]

theorem anyHolds_congr {nodes : List Node} (agree : ∀ name ∈ fieldsOfAll nodes, record.SameField other name) :
    anyHolds record nodes = anyHolds other nodes := by
  match nodes with
  | [] => rfl
  | node :: rest =>
    rw [fieldsOfAll, List.forall_mem_append] at agree
    rw [anyHolds, anyHolds, Node.holds_congr agree.1, anyHolds_congr agree.2]

end

end Expression

namespace Layout

open Expression (Node)

theorem evaluate_of_parse {expression : Text} {node : Node}
    (parsed : Expression.parse (Text.strip expression) = .ok node) (record : Record) :
    evaluate record expression = .ok (node.holds record) := by
  rw [evaluate, parsed]
  rfl

/-- An expression comes to the same on two records that agree on its required fields, and to the same on a
record and on what is left of it when all other fields are taken out. -/
theorem evaluate_eq_of_sameFields {expression : Text} {node : Node}
    (parsed : Expression.parse (Text.strip expression) = .ok node) :
    (∀ record other : Record, (∀ name ∈ node.requiredFields, record.SameField other name) →
      ∃ held, evaluate record expression = .ok held ∧ evaluate other expression = .ok held) ∧
    ∀ record : Record,
      evaluate (record.restrict node.requiredFields) expression = evaluate record expression := by
  have agreeing : ∀ record other : Record,
      (∀ name ∈ node.requiredFields, record.SameField other name) →
        node.holds record = node.holds other := by
    intro record other agree
    apply Node.holds_congr
    intro name hn
    exact agree name (Text.mem_sortedSet_iff.2 hn)
  refine ⟨?_, ?_⟩
  · intro record other agree
    refine ⟨node.holds record, evaluate_of_parse parsed record, ?_⟩
    rw [evaluate_of_parse parsed other, agreeing record other agree]
  · intro record
    rw [evaluate_of_parse parsed, evaluate_of_parse parsed, agreeing]
    intro name hn
    exact .of_get? (Record.get?_restrict hn record)

/-- In a list of words, each may be a field or a literal. Two records with different other fields agree, and
the word that is no field of theirs is found. -/
theorem evaluate_eq_of_sameFields_words :
    let expression : Text := " STATUS IN (OPEN, PENDING)"
    let node : Node := .oneOf (.field "STATUS" false) [.field "OPEN" true, .field "PENDING" true] false
    let record : Record := [("AGE", .int 3), ("STATUS", .text "OPEN"), ("PENDING", .null)]
    let other : Record := [("STATUS", .text "OPEN"), ("PENDING", .null), ("CITY", .text "Bonn")]
    Expression.parse (Text.strip expression) = .ok node ∧
      (∀ name ∈ node.requiredFields, record.SameField other name) ∧
      ∃ held, evaluate record expression = .ok held ∧ evaluate other expression = .ok held := by
  intro expression node record other
  have scanned : Expression.tokens (Text.strip expression) =
      .ok [⟨.identifier, "STATUS", 0⟩, ⟨.identifier, "IN", 7⟩, ⟨.leftParen, "(", 10⟩,
        ⟨.identifier, "OPEN", 11⟩, ⟨.comma, ",", 15⟩, ⟨.identifier, "PENDING", 17⟩,
        ⟨.rightParen, ")", 24⟩] := by
    decide +kernel
  have parsed : Expression.parse (Text.strip expression) = .ok node :=
    Expression.parse_eq_ok_iff.2 ⟨_, scanned, rfl⟩
  have agree : ∀ name ∈ node.requiredFields, record.SameField other name := by
    have fields : ∀ name ∈ node.fields, record.SameField other name := by
      intro name hn
      have named : name ∈ ["STATUS".toList, "OPEN".toList, "PENDING".toList] := hn
      simp only [List.mem_cons, List.not_mem_nil, or_false] at named
      rcases named with rfl | rfl | rfl <;> exact ⟨by decide, by decide⟩
    intro name hn
    exact fields name (Text.mem_sortedSet_iff.1 hn)
  exact ⟨parsed, agree, (evaluate_eq_of_sameFields parsed).1 record other agree⟩

end Layout
end FixedExtract
