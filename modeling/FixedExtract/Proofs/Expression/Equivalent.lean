import FixedExtract.Proofs.Expression.Spelling
/-!
# Tests that say the same

A list of options is a chain of comparisons, and an interval is a pair of them. Comparing with null is the same from
both sides, except for a field that the record lacks: on the left it has no text, and on the right its name is its
text.
-/

namespace FixedExtract.Expression

open Grammar

variable {record : Record}

/-! ## Equality with null -/

/-- The null literal. -/
def Spelling.null : Spelling :=
  have scanned : scan 0 "null" = .ok [⟨.identifier, "null", 0⟩] := by decide +kernel
  .ofToken scanned (.null rfl (by decide +kernel))

theorem isEqual_null_right (operand : Operand) : isEqual record operand .null = (operand.text? record).isNone := rfl

theorem isEqual_null_left (operand : Operand) : isEqual record .null operand = (operand.text? record).isNone := by
  cases operand <;> rfl

/-- The operand is a field, and the record has none of that name. -/
def Operand.IsLacking (record : Record) (operand : Operand) : Prop :=
  ∃ name fallback, operand = .field name fallback ∧ record.has name = false

/-- Only for a field that the record lacks does it make a difference on which side it stands. -/
theorem Spelling.isNone_onRight_iff (x : Spelling) :
    (x.operand.text? record).isNone = (x.operand.onRight.text? record).isNone ↔ ¬x.operand.IsLacking record := by
  cases operand : x.operand with
  | field name fallback =>
    cases x.unmarked operand
    cases here : record.has name with
    | true => simp [Operand.IsLacking, Operand.onRight, Operand.text?, here]
    | false => simp [Operand.IsLacking, Operand.onRight, Operand.text?, here]
  | _ => simp [Operand.IsLacking, Operand.onRight]

theorem Operand.isNone_field_iff {name : Text} {fallback : Bool} :
    ((Operand.field name fallback).text? record).isNone = true ↔
      (record.get? name = none ∧ fallback = false) ∨ record.get? name = some .null := by
  cases found : record.get? name with
  | none => cases fallback <;> simp [Operand.text?, Record.has, found]
  | some v => cases v <;> simp [Operand.text?, Record.has, Record.text?, Record.textOf, found]

/-- An operand may be compared with null from either side. The outcome is the same, unless the operand is a field
that the record lacks: on the left it is nothing then, and on the right its own name. So a field on the left is
compared as to whether it is absent or null, and a field on the right as to whether it is there and null. -/
theorem evaluate_null (x : Spelling) (record : Record) :
    ∃ isNull nullIs : Bool,
      Layout.evaluate record (x.text ++ " == null") = .ok isNull ∧
      Layout.evaluate record (x.text ++ " != null") = .ok (!isNull) ∧
      Layout.evaluate record ("null == " ++ x.text) = .ok nullIs ∧
      Layout.evaluate record ("null != " ++ x.text) = .ok (!nullIs) ∧
      (isNull = nullIs ↔ ¬x.operand.IsLacking record) ∧
      ∀ name fallback, x.operand = .field name fallback →
        (isNull = true ↔ record.get? name = none ∨ record.get? name = some .null) ∧
        (nullIs = true ↔ record.get? name = some .null) := by
  -- Both orders, for either sign.
  have onLeft : ∀ {sign : Text} {c : Comparator}, sign = " " ++ c.symbol ++ " " →
      Layout.evaluate record (x.text ++ (sign ++ "null")) = .ok (c.holds record x.operand .null) := by
    intro sign c spaced
    rw [← List.append_assoc]
    exact (spells_compare _ spaced x .null).evaluate record
  have onRight : ∀ {sign : Text} {c : Comparator}, sign = " " ++ c.symbol ++ " " →
      Layout.evaluate record ("null" ++ sign ++ x.text) = .ok (c.holds record .null x.operand.onRight) :=
    fun spaced => (spells_compare _ spaced .null x).evaluate record
  refine ⟨isEqual record x.operand .null, isEqual record .null x.operand.onRight, onLeft (c := .equal) rfl,
    onLeft (c := .notEqual) rfl, onRight (c := .equal) rfl, onRight (c := .notEqual) rfl, ?_, ?_⟩
  · rw [isEqual_null_right, isEqual_null_left]
    exact x.isNone_onRight_iff
  · intro name fallback field
    rw [isEqual_null_right, isEqual_null_left, field, x.unmarked field]
    exact ⟨Operand.isNone_field_iff.trans (by simp), Operand.isNone_field_iff.trans (by simp)⟩

/-- A field that is null, compared with null from both sides. -/
theorem evaluate_null_nullField :
    let record : Record := [("CITY", .null)]
    Layout.evaluate record "CITY == null" = .ok true ∧ Layout.evaluate record "null == CITY" = .ok true := by
  intro record
  have scanned : scan 0 "CITY" = .ok [⟨.identifier, "CITY", 0⟩] := by decide +kernel
  obtain ⟨isNull, nullIs, left, -, right, -, -, fields⟩ :=
    evaluate_null (.ofToken scanned (.field ⟨rfl, by decide +kernel⟩)) record
  obtain ⟨isNull_iff, nullIs_iff⟩ := fields "CITY" false rfl
  rw [isNull_iff.2 (.inr rfl)] at left
  rw [nullIs_iff.2 rfl] at right
  exact ⟨left, right⟩

/-- A field that the record lacks is null, but null is not the field. -/
theorem evaluate_lackingField :
    Layout.evaluate [] "CITY == null" = .ok true ∧ Layout.evaluate [] "null == CITY" = .ok false := by
  have scanned : scan 0 "CITY" = .ok [⟨.identifier, "CITY", 0⟩] := by decide +kernel
  let city : Spelling := .ofToken scanned (.field ⟨rfl, by decide +kernel⟩)
  exact ⟨(spells_compare .equal rfl city .null).evaluate [],
    (spells_compare .equal rfl .null city).evaluate []⟩

/-! ## Lists and intervals -/

theorem isEqual_of_ne_null {left right : Operand} (leftNotNull : left ≠ .null) (rightNotNull : right ≠ .null) :
    isEqual record left right = equalFor record left right := by
  have notNull : ∀ {operand : Operand}, operand ≠ .null → operand.isNull = false := by
    intro operand h
    cases operand with
    | null => exact absurd rfl h
    | _ => rfl
  rw [isEqual, notNull leftNotNull, notNull rightNotNull]
  rfl

theorem Operand.onRight_ne_null {operand : Operand} (notNull : operand ≠ .null) : operand.onRight ≠ .null := by
  cases operand with
  | null => exact absurd rfl notNull
  | _ => nofun

/-- Among options of which none is null, an operand is found when it equals one of them. -/
theorem isOneOf_eq_any {operand : Operand} {options : List Spelling} (notNull : operand ≠ .null)
    (noNull : ∀ o ∈ options, o.operand ≠ .null) :
    isOneOf record operand (options.map fun o => o.operand.onRight) =
      options.any fun o => isEqual record operand o.operand.onRight := by
  rw [isOneOf, List.any_map, Bool.eq_iff_iff, List.any_eq_true, List.any_eq_true]
  refine exists_congr fun o => and_congr_right fun ho => ?_
  rw [isEqual_of_ne_null notNull (Operand.onRight_ne_null (noNull o ho))]
  rfl

theorem isBetween_eq (operand low high : Operand) :
    isBetween record operand low high =
      (Comparator.greaterOrEqual.holds record operand low && Comparator.lessOrEqual.holds record operand high) := by
  unfold isBetween Comparator.holds ordered
  cases operand.decimal? record with
  | none => rfl
  | some x =>
    cases low.decimal? record with
    | none => rfl
    | some l =>
      cases high.decimal? record with
      | none => simp
      | some h => rfl

/-- A list of options is evaluated like the comparisons with each of them, joined by `||`, and a list that is negated
like the negated comparisons, joined by `&&`, as long as nothing of them is null. An interval is evaluated like the
comparisons with its two ends. -/
theorem evaluate_lists (x : Spelling) (record : Record) :
    (x.operand ≠ .null → ∀ options : List Spelling, options ≠ [] → (∀ o ∈ options, o.operand ≠ .null) →
      (∃ held, Layout.evaluate record (x.text ++ " IN (" ++ listText options ++ ")") = .ok held ∧
        Layout.evaluate record (Text.join " || " (options.map fun o => x.text ++ " == " ++ o.text)) = .ok held) ∧
      ∃ held, Layout.evaluate record (x.text ++ " NOT IN (" ++ listText options ++ ")") = .ok held ∧
        Layout.evaluate record (Text.join " && " (options.map fun o => x.text ++ " != " ++ o.text)) = .ok held) ∧
    ∀ low high : Spelling, ∃ held,
      Layout.evaluate record (x.text ++ " BETWEEN " ++ low.text ++ " AND " ++ high.text) = .ok held ∧
      Layout.evaluate record (x.text ++ " >= " ++ low.text ++ " && " ++ x.text ++ " <= " ++ high.text) = .ok held := by
  refine ⟨?_, ?_⟩
  · intro notNull options some noNull
    have equals : ∀ o ∈ options,
        Spells (x.text ++ " == " ++ o.text) (.compare .equal x.operand o.operand.onRight) := fun o _ => spells_compare .equal rfl x o
    have differs : ∀ o ∈ options,
        Spells (x.text ++ " != " ++ o.text) (.compare .notEqual x.operand o.operand.onRight) :=
      fun o _ => spells_compare .notEqual rfl x o
    have oneOf := @isOneOf_eq_any record _ _ notNull noNull
    refine ⟨⟨_, (spells_oneOf x some).evaluate record, ?_⟩, ⟨_, (spells_notOneOf x some).evaluate record, ?_⟩⟩
    · rw [evaluate_disjunction equals some, Node.holds, oneOf, Bool.bne_false]
      rfl
    · rw [evaluate_conjunction differs some, Node.holds, oneOf, Bool.bne_true, List.not_any_eq_all_not]
      rfl
  · intro low high
    -- An interval is a chain of two comparisons.
    let bounds : List (Comparator × Spelling) := [(.greaterOrEqual, low), (.lessOrEqual, high)]
    have spells : ∀ bound ∈ bounds, Spells (x.text ++ (" " ++ bound.1.symbol ++ " ") ++ bound.2.text)
        (.compare bound.1 x.operand bound.2.operand.onRight) := fun bound _ => spells_compare bound.1 rfl x bound.2
    have chain := evaluate_conjunction spells (List.cons_ne_nil _ _) record
    refine ⟨_, (spells_between x low high).evaluate record, ?_⟩
    have joined :
        Text.join " && " (bounds.map fun bound => x.text ++ (" " ++ bound.1.symbol ++ " ") ++ bound.2.text) =
          x.text ++ " >= " ++ low.text ++ " && " ++ x.text ++ " <= " ++ high.text := by
      simp [bounds, Text.join, List.intercalate_cons_cons, Comparator.symbol]
    rw [← joined, chain, Node.holds, isBetween_eq]
    simp [bounds, Node.holds]

/-- A field among a number and a string. -/
theorem evaluate_lists_codes :
    let record : Record := [("CODE", .text "A")]
    Layout.evaluate record "CODE IN (1, 'A')" = .ok true ∧
      Layout.evaluate record "CODE == 1 || CODE == 'A'" = .ok true := by
  intro record
  have codeScanned : scan 0 "CODE" = .ok [⟨.identifier, "CODE", 0⟩] := by decide +kernel
  have oneScanned : scan 0 "1" = .ok [⟨.number, "1", 0⟩] := by decide +kernel
  have letterScanned : scan 0 "'A'" = .ok [⟨.string, "A", 0⟩] := by decide +kernel
  let code : Spelling := .ofToken codeScanned (.field ⟨rfl, by decide +kernel⟩)
  have digit : ∀ c ∈ ("1" : Text), Text.isDecimalDigit c = true :=
    List.forall_mem_singleton.2 (Text.isDecimalDigit_of_isAsciiDigit (by decide))
  have oneAtom : Atom false ⟨.number, "1", 0⟩ (.number ⟨false, 1, 0⟩ "1") :=
    .number rfl ⟨false, "1", [], rfl, nofun, digit, nofun⟩ (by decide +kernel)
  let one : Spelling := .ofToken oneScanned oneAtom
  let letter : Spelling := .ofToken letterScanned (.string rfl)
  have noNull : ∀ o ∈ [one, letter], o.operand ≠ .null :=
    List.forall_mem_cons.2 ⟨nofun, List.forall_mem_singleton.2 nofun⟩
  obtain ⟨⟨held, oneOf, equals⟩, -⟩ := (evaluate_lists code record).1 nofun [one, letter] nofun noNull
  have here : Layout.evaluate record "CODE IN (1, 'A')" = .ok true := by decide +kernel
  cases here.symm.trans oneOf
  exact ⟨oneOf, equals⟩

end FixedExtract.Expression
