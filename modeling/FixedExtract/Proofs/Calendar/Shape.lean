import FixedExtract.Proofs.Calendar.Cutting
import FixedExtract.Proofs.Calendar.Digits
import FixedExtract.Proofs.Regex.Reading
/-!
# The shape of a pattern

A text has the shape of a pattern when it can be cut into one piece for each part: literals as they stand, and for
every field the digits or letters that it prescribes. A regular expression with one expression for each part says the
same, since literals are escaped in it and no expression changes how the one in front of it is read.
-/

namespace FixedExtract.DatePattern

open Regex

variable {f : Field} {part : Part} {parts : List Part} {pattern text piece : Text}

/-! ## Pieces -/

/-- A field is written like this: with so many digits, as a name of letters, or as one of the halves of the day. -/
def Field.Form : Field → Text → Prop
  | .year, piece => IsDigits 4 piece
  | .yearOfCentury, piece => IsDigits 2 piece
  | .monthName, piece => piece ≠ [] ∧ ∀ c ∈ piece, isNameLetter c = true
  | .shortMonthName, piece => piece ≠ [] ∧ ∀ c ∈ piece, isNameLetter c = true
  | .number _ true, piece => IsDigits 2 piece
  | .number _ false, piece => IsDigits 1 piece ∨ IsDigits 2 piece
  | .millisecond, piece => IsDigits 3 piece
  | .halfDay, piece => ∃ half m, piece = [half, m] ∧ half ∈ ['A', 'a', 'P', 'p'] ∧ m ∈ ['M', 'm']

/-- What a part of a pattern stands for: a field for all its forms, and a literal for itself. -/
def Part.Stands : Part → Text → Prop
  | .field f, piece => f.Form piece
  | part, piece => piece = part.literal

theorem Field.admits_iff_form : f.admits piece = true ↔ f.Form piece := by
  have names : (!piece.isEmpty && piece.all isNameLetter) = true ↔ piece ≠ [] ∧ ∀ c ∈ piece, isNameLetter c = true := by
    simp
  have exactly : ∀ width, (decide (piece.length = width) && piece.all Text.isAsciiDigit) = true ↔
      IsDigits width piece := by
    simp [isDigits_iff]
  cases f with
  | year => exact exactly 4
  | yearOfCentury => exact exactly 2
  | monthName => exact names
  | shortMonthName => exact names
  | number unit padded =>
    cases padded with
    | true => simpa [admits, Form] using exactly 2
    | false =>
      rw [Form, isDigits_iff, isDigits_iff, ← or_and_right, or_comm]
      simp [admits]
  | millisecond => exact exactly 3
  | halfDay =>
    match piece with
    | [] => simp [admits, Form]
    | [a] => simp [admits, Form]
    | [a, m] => simp [admits, Form, or_assoc, or_left_comm, or_comm]
    | _ :: _ :: _ :: _ => simp [admits, Form]

/-- A text has the shape of parts exactly when it is cut into pieces that they stand for. -/
theorem hasShape_iff_spelledBy : hasShape parts text = true ↔ SpelledBy Part.Stands parts text := by
  induction parts generalizing text with
  | nil => rw [spelledBy_nil, hasShape, List.isEmpty_iff]
  | cons part parts ih =>
    -- A literal is cut off in the same way, whether it stands between apostrophes or is a single character.
    have literal : (part.literal.isPrefixOf text && hasShape parts (text.drop part.literal.length)) = true ↔
        ∃ piece rest, piece ++ rest = text ∧ piece = part.literal ∧ SpelledBy Part.Stands parts rest := by
      rw [Bool.and_eq_true, List.isPrefixOf_iff_prefix, ih]
      constructor
      · rintro ⟨⟨rest, rfl⟩, others⟩
        rw [List.drop_left] at others
        exact ⟨_, rest, rfl, rfl, others⟩
      · rintro ⟨_, rest, rfl, rfl, others⟩
        exact ⟨List.prefix_append _ _, by rwa [List.drop_left]⟩
    rw [spelledBy_cons]
    cases part with
    | field f =>
      simp only [hasShape, List.any_eq_true, Bool.and_eq_true, Field.admits_iff_form, ih]
      constructor
      · rintro ⟨n, -, form, others⟩
        exact ⟨_, _, List.take_append_drop n text, form, others⟩
      · rintro ⟨piece, rest, rfl, form, others⟩
        refine ⟨piece.length, by rw [List.mem_range, List.length_append]; omega, ?_, ?_⟩
        · rwa [List.take_left]
        · rwa [List.drop_left]
    | quoted text => exact literal
    | plain c => exact literal

/-! ## The expression of a shape -/

/-- The expression of a field. -/
def Field.expression : Field → Text
  | .year => "[0-9]\x7b4\x7d"
  | .yearOfCentury => "[0-9]\x7b2\x7d"
  | .monthName => "[^\\W\\d_]+"
  | .shortMonthName => "[^\\W\\d_]+"
  | .number _ true => "[0-9]\x7b2\x7d"
  | .number _ false => "[0-9]\x7b1,2\x7d"
  | .millisecond => "[0-9]\x7b3\x7d"
  | .halfDay => "[AaPp][Mm]"

/-- The expression of a part. -/
def Part.expression : Part → Text
  | .field f => f.expression
  | part => escaped part.literal

/-- The item for ASCII digits, from `least` to `most` of them. -/
def digitsItem (least most : Nat) : Item := .repeated .greedy least (some most) [.set false [.range 48 57]]

/-- The item for a name: letters and numbers that are no decimal digits. -/
def nameItem : Item := .repeated .greedy 1 none [.set true [.category .word true, .category .digit false, .literal 95]]

/-- The item for one of some letters. -/
def letterItem (letters : List Char) : Item := .set false (letters.map fun c => .literal c.toNat)

/-- The items that are read for a field. -/
def Field.items : Field → List Item
  | .year => [digitsItem 4 4]
  | .yearOfCentury => [digitsItem 2 2]
  | .monthName => [nameItem]
  | .shortMonthName => [nameItem]
  | .number _ true => [digitsItem 2 2]
  | .number _ false => [digitsItem 1 2]
  | .millisecond => [digitsItem 3 3]
  | .halfDay => [letterItem ['A', 'a', 'P', 'p'], letterItem ['M', 'm']]

/-- The items that are read for a part. -/
def Part.items : Part → List Item
  | .field f => f.items
  | part => literals part.literal

/-! ### Reading the expression -/

/-- How the bounds of the digits of a field are written, behind the opening brace. -/
def boundsWritten : List (Text × Nat × Nat) :=
  [("4\x7d", 4, 4), ("3\x7d", 3, 3), ("2\x7d", 2, 2), ("1,2\x7d", 1, 2)]

variable {least most : Nat}

theorem readBounds_eq {bounds : Text} (written : (bounds, least, most) ∈ boundsWritten) {rest : List Token}
    (fresh : Fresh rest) :
    readBounds (tokensOf bounds ++ rest) = .ok (some ((least, some most), rest)) := by
  simp only [boundsWritten, List.mem_cons, List.not_mem_nil, or_false, Prod.mk.injEq] at written
  -- What follows the brace is looked at, since the pattern may be broken off there.
  rcases written with ⟨rfl, rfl, rfl⟩ | ⟨rfl, rfl, rfl⟩ | ⟨rfl, rfl, rfl⟩ | ⟨rfl, rfl, rfl⟩ <;>
    rcases fresh.cases with rfl | ⟨_, _, rfl⟩ | ⟨_, _, rfl⟩ <;> rfl

theorem readsAs_digits (bounds : Text) (written : (bounds, least, most) ∈ boundsWritten) :
    ReadsAs (tokensOf "[0-9]" ++ .plain '\x7b' :: tokensOf bounds) [digitsItem least most] := by
  have digit : ReadsItem [.plain '[', .plain '0', .plain '-', .plain '9', .plain ']'] (.set false [.range 48 57]) :=
    fun _ _ _ _ _ => rfl
  exact digit.repeated rfl (by decide) (readBounds_eq written) rfl rfl

theorem readsAs_name : ReadsAs (tokensOf "[^\\W\\d_]+") [nameItem] := by
  have letter : ReadsItem [.plain '[', .plain '^', .escaped 'W', .escaped 'd', .plain '_', .plain ']']
      (.set true [.category .word true, .category .digit false, .literal 95]) := fun _ _ _ _ _ => rfl
  exact letter.repeated rfl (by decide) (fun _ => rfl) rfl rfl

theorem Field.readsAs (f : Field) : ReadsAs (tokensOf f.expression) f.items := by
  cases f with
  | year => exact readsAs_digits "4\x7d" (by decide)
  | yearOfCentury => exact readsAs_digits "2\x7d" (by decide)
  | monthName => exact readsAs_name
  | shortMonthName => exact readsAs_name
  | number unit padded =>
    cases padded with
    | true => exact readsAs_digits "2\x7d" (by decide)
    | false => exact readsAs_digits "1,2\x7d" (by decide)
  | millisecond => exact readsAs_digits "3\x7d" (by decide)
  | halfDay =>
    have half : ReadsItem (.plain '[' :: tokensOf "AaPp]") (letterItem ['A', 'a', 'P', 'p']) := fun _ _ _ _ _ => rfl
    have m : ReadsItem (.plain '[' :: tokensOf "Mm]") (letterItem ['M', 'm']) := fun _ _ _ _ _ => rfl
    exact (half.readsAs rfl).append (m.readsAs rfl)

theorem Part.readsAs (part : Part) : ReadsAs (tokensOf part.expression) part.items := by
  cases part with
  | field f => exact f.readsAs
  | quoted text => exact readsAs_escaped text
  | plain c => exact readsAs_escaped [c]

theorem tokensOf_expression_append (part : Part) (rest : Text) :
    tokensOf (part.expression ++ rest) = tokensOf part.expression ++ tokensOf rest := by
  have literal : ∀ text, tokensOf (escaped text ++ rest) = tokensOf (escaped text) ++ tokensOf rest := by
    intro text
    have alone := tokensOf_escaped_append text []
    rw [List.append_nil, tokensOf, List.append_nil] at alone
    rw [tokensOf_escaped_append, alone]
  cases part with
  | field f =>
    cases f with
    | number unit padded => cases padded <;> rfl
    | year | yearOfCentury | monthName | shortMonthName | millisecond | halfDay => rfl
  | quoted text => exact literal text
  | plain c => exact literal [c]

theorem tokensOf_flatMap_expression (parts : List Part) :
    tokensOf (parts.flatMap Part.expression) = parts.flatMap fun part => tokensOf part.expression := by
  induction parts with
  | nil => rfl
  | cons part parts ih => rw [List.flatMap_cons, tokensOf_expression_append, ih, List.flatMap_cons]

theorem unwrapGroups_of_mem_items {item : Item} (h : item ∈ part.items) : unwrapGroups [item] = [item] := by
  cases part with
  | field f =>
    cases f with
    | number unit padded => cases padded <;> (obtain rfl := List.mem_singleton.1 h; rfl)
    | year | yearOfCentury | monthName | shortMonthName | millisecond => obtain rfl := List.mem_singleton.1 h; rfl
    | halfDay => rcases List.mem_pair.1 h with rfl | rfl <;> rfl
  | quoted text => exact unwrapGroups_of_mem_literals text h
  | plain c => exact unwrapGroups_of_mem_literals [c] h

/-- The expression for parts is always well formed. -/
theorem read_expression (parts : List Part) :
    Pattern.read (parts.flatMap Part.expression) = .ok ⟨plainFlags, parts.flatMap Part.items⟩ := by
  have reads : ReadsAs (tokensOf (parts.flatMap Part.expression)) (parts.flatMap Part.items) := by
    rw [tokensOf_flatMap_expression]
    exact .flatMap fun part _ => part.readsAs
  refine reads.read fun item member => ?_
  obtain ⟨part, -, member⟩ := List.mem_flatMap.1 member
  exact unwrapGroups_of_mem_items member

/-! ### Matching the expression -/

theorem spelledBy_digits :
    SpelledBy Step.Takes (stepsOf plainFlags [digitsItem least most]) piece ↔
      least ≤ piece.length ∧ piece.length ≤ most ∧ ∀ c ∈ piece, Text.isAsciiDigit c = true := by
  have steps : stepsOf plainFlags [digitsItem least most] =
      [.run .greedy least (some most) (.among .none false [.within 48 57])] := rfl
  have holds : ∀ c, (Test.among .none false [.within 48 57]).holds c = Text.isAsciiDigit c := by
    intro c
    simp [Test.holds, Member.holds, Fold.lower, isWithin, Text.isAsciiDigit]
  rw [steps, spelledBy_singleton]
  simp [Step.Takes, holds]

theorem spelledBy_name :
    SpelledBy Step.Takes (stepsOf plainFlags [nameItem]) piece ↔ piece ≠ [] ∧ ∀ c ∈ piece, isNameLetter c = true := by
  let test : Test := .among .none true [.inCategory .word true false, .inCategory .digit false false, .only 95]
  have steps : stepsOf plainFlags [nameItem] = [.run .greedy 1 none test] := rfl
  have holds : ∀ c, test.holds c = isNameLetter c := by
    intro c
    -- The underscore is in words too, but it is neither a letter nor a number.
    by_cases underscore : c = '_'
    · subst underscore
      decide +kernel
    · have code : (c.toNat == 95) = false := beq_false_of_ne fun same => underscore (Char.toNat_inj.1 same)
      simp [test, Test.holds, Member.holds, Fold.lower, inCategory, isNameLetter, Text.isWord, underscore, code]
  rw [steps, spelledBy_singleton]
  simp [Step.Takes, holds, Nat.one_le_iff_ne_zero]

theorem spelledBy_letter {letters : List Char} :
    SpelledBy Step.Takes (stepsOf plainFlags [letterItem letters]) piece ↔ ∃ c ∈ letters, piece = [c] := by
  have steps : stepsOf plainFlags [letterItem letters] =
      [.test (.among .none false (letters.map fun c => .only c.toNat))] := by
    simp [letterItem, stepsOf, stepsOfItem, Test.ofSet, plainFlags, Flags.fold, Flags.none, SetItem.plainMember]
  have holds : ∀ c, (Test.among .none false (letters.map fun c => .only c.toNat)).holds c = true ↔ c ∈ letters := by
    intro c
    simp [Test.holds, Member.holds, Fold.lower, Char.toNat_inj]
  rw [steps, spelledBy_singleton]
  simp only [Step.Takes, holds, and_comm]

/-- The steps for a field take its forms. -/
theorem Field.form_iff : f.Form piece ↔ SpelledBy Step.Takes (stepsOf plainFlags f.items) piece := by
  have exactly : ∀ width, IsDigits width piece ↔
      SpelledBy Step.Takes (stepsOf plainFlags [digitsItem width width]) piece := by
    intro width
    rw [spelledBy_digits, isDigits_iff, Nat.eq_iff_le_and_ge, and_assoc, and_left_comm]
  cases f with
  | year => exact exactly 4
  | yearOfCentury => exact exactly 2
  | monthName => exact spelledBy_name.symm
  | shortMonthName => exact spelledBy_name.symm
  | number unit padded =>
    cases padded with
    | true => exact exactly 2
    | false =>
      have widths : 1 ≤ piece.length ∧ piece.length ≤ 2 ↔ piece.length = 1 ∨ piece.length = 2 := by omega
      rw [Form, isDigits_iff, isDigits_iff, ← or_and_right, items, spelledBy_digits, ← and_assoc, widths]
  | millisecond => exact exactly 3
  | halfDay =>
    have steps : stepsOf plainFlags halfDay.items =
        stepsOf plainFlags [letterItem ['A', 'a', 'P', 'p']] ++ stepsOf plainFlags [letterItem ['M', 'm']] := rfl
    rw [steps, spelledBy_append]
    simp only [spelledBy_letter]
    constructor
    · rintro ⟨half, m, rfl, isHalf, isM⟩
      exact ⟨[half], [m], rfl, ⟨half, isHalf, rfl⟩, m, isM, rfl⟩
    · rintro ⟨_, _, rfl, ⟨half, isHalf, rfl⟩, m, isM, rfl⟩
      exact ⟨half, m, rfl, isHalf, isM⟩

theorem Part.stands_iff : part.Stands piece ↔ SpelledBy Step.Takes (stepsOf plainFlags part.items) piece := by
  cases part with
  | field f => exact Field.form_iff
  | quoted text => exact (spelledBy_literals text).symm
  | plain c => exact (spelledBy_literals [c]).symm

theorem Part.isTaking_of_mem {step : Step} (h : step ∈ stepsOf plainFlags part.items) : step.isTaking = true := by
  cases part with
  | field f =>
    have all : (stepsOf plainFlags f.items).all Step.isTaking = true := by
      cases f with
      | number unit padded => cases padded <;> rfl
      | year | yearOfCentury | monthName | shortMonthName | millisecond | halfDay => rfl
    exact List.all_eq_true.1 all step h
  | quoted text => exact isTaking_of_mem_literals text h
  | plain c => exact isTaking_of_mem_literals [c] h

/-- The expression for parts matches the texts that the parts spell and no others. -/
theorem find_expression (parts : List Part) (text : Text) :
    (Pattern.find ⟨plainFlags, parts.flatMap Part.items⟩ text = .matched ↔ SpelledBy Part.Stands parts text) ∧
      Pattern.find ⟨plainFlags, parts.flatMap Part.items⟩ text ≠ .crossed := by
  -- The steps of all parts are taken together, and each part stands for what its own steps take.
  have program : Pattern.program ⟨plainFlags, parts.flatMap Part.items⟩ =
      parts.flatMap fun part => stepsOf plainFlags part.items := by
    simp only [Pattern.program, stepsOf_eq_flatMap, List.flatMap_assoc]
  have taking : ∀ step ∈ Pattern.program ⟨plainFlags, parts.flatMap Part.items⟩, step.isTaking = true := by
    intro step member
    rw [program] at member
    obtain ⟨part, -, member⟩ := List.mem_flatMap.1 member
    exact Part.isTaking_of_mem member
  have spelled : SpelledBy Part.Stands parts text ↔
      SpelledBy Step.Takes (parts.flatMap fun part => stepsOf plainFlags part.items) text :=
    spelledBy_flatMap fun part _ piece => Part.stands_iff
  have found := Pattern.find_of_isTaking taking text
  rwa [program, ← spelled] at found

/-! ## Patterns -/

/-- Every pattern is cut in one way into parts, from left to right and without a rest. The regular expression with one
expression for each part is well formed, and it matches the texts that can be cut into one piece for each part, in
order: literals as they stand and what each field prescribes. The directives of the pattern are made from the same
parts. -/
theorem exists_cut_shape (pattern : Text) :
    ∃ parts : List Part,
      (∀ other, Cut pattern other ↔ other = parts) ∧
      parts.flatMap Part.written = pattern ∧
      (∃ shape, Pattern.read (parts.flatMap Part.expression) = .ok shape ∧
        ∀ text, (shape.find text = .matched ↔ SpelledBy Part.Stands parts text) ∧ shape.find text ≠ .crossed) ∧
      (∀ text, hasShapeOf pattern text = true ↔ SpelledBy Part.Stands parts text) ∧
      directives pattern = parts.flatMap fun
        | .field f => ['%', f.directive]
        | part => part.literal.flatMap fun c => if c = '%' then ['%', '%'] else [c] := by
  refine ⟨partsOf pattern, fun other => cut_iff, (cut_partsOf pattern).flatMap_written, ?_, ?_, ?_⟩
  · exact ⟨_, read_expression (partsOf pattern), find_expression (partsOf pattern)⟩
  · exact fun text => hasShape_iff_spelledBy
  · refine List.flatMap_congr fun part _ => ?_
    cases part <;> rfl

end FixedExtract.DatePattern
