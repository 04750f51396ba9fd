import FixedExtract.Layout.Branch
import FixedExtract.Proofs.Expression.Language
/-!
# Expressions made of expressions

Texts that parse may be put together with the operators, and the text that results means what the parts mean
together. The tokens of the parts stay apart, whatever the parts start and end with, and the position of a
token has no part in what it derives.
-/

namespace FixedExtract.Expression

open Grammar

/-! ## Moving tokens -/

theorem keeps_moved (distance : Nat) : Keeps (Token.moved distance) := ⟨fun _ => rfl, fun _ => rfl⟩

def Token.movedBack (distance : Nat) (t : Token) : Token := { t with position := t.position - distance }

theorem keeps_movedBack (distance : Nat) : Keeps (Token.movedBack distance) := ⟨fun _ => rfl, fun _ => rfl⟩

theorem movedBack_moved (distance : Nat) (t : Token) :
    (t.moved distance).movedBack distance = t := by
  cases t
  simp [Token.moved, Token.movedBack]

/-- Whether a text can be scanned does not depend on where it starts. -/
theorem exists_scan {position : Nat} {text : Text} {ts : List Token} (h : scan position text = .ok ts)
    (other : Nat) : ∃ us, scan other text = .ok us := by
  fun_induction scan position text generalizing ts other with
  | case1 => exact ⟨[], scan_nil other⟩
  | case2 position c rest space ih =>
    rw [scan_space space]
    exact ih h _
  | case3 => cases h
  | case4 position c rest space found token ih =>
    obtain ⟨others, ho, rfl⟩ := map_eq_ok_iff.1 h
    rw [scan_token (Bool.eq_false_iff.2 space) token]
    obtain ⟨us, hu⟩ := ih ho (other + (rest.length + 1 - found.rest.length))
    rw [hu]
    exact ⟨_, rfl⟩

/-! ## What a text denotes -/

/-- The tokens of the text, wherever it starts, derive the tree. -/
def Denotes (text : Text) (tree : Tree) : Prop :=
  ∃ position ts, scan position text = .ok ts ∧ Derives ts tree

/-- It does not matter where the text starts. -/
theorem Denotes.scanned {text : Text} {tree : Tree} (h : Denotes text tree) (position : Nat) :
    ∃ ts, scan position text = .ok ts ∧ Derives ts tree := by
  obtain ⟨start, ts, hs, derived⟩ := h
  -- From where the text starts it is moved back to the front, and from there to the position.
  obtain ⟨us, hu⟩ := exists_scan hs 0
  have atStart := scan_moved start hu
  rw [Nat.zero_add, hs] at atStart
  cases atStart
  have atPosition := scan_moved position hu
  rw [Nat.zero_add] at atPosition
  have derivedAtFront := derived.map (keeps_movedBack start)
  have back : Token.movedBack start ∘ Token.moved start = id := funext (movedBack_moved start)
  rw [List.map_map, back, List.map_id] at derivedAtFront
  exact ⟨_, atPosition, derivedAtFront.map (keeps_moved position)⟩

theorem denotes_iff {text : Text} {tree : Tree} :
    Denotes text tree ↔ ∃ node, parse text = .ok node ∧ node.tree = tree := by
  rw [exists_parse_iff]
  constructor
  · intro h
    obtain ⟨ts, hs, derived⟩ := h.scanned 0
    exact ⟨ts, tokens_eq_ok_iff.2 hs, derived⟩
  · rintro ⟨ts, hs, derived⟩
    exact ⟨0, ts, tokens_eq_ok_iff.1 hs, derived⟩

/-- White space around a text is of no account. -/
theorem Denotes.strip {text : Text} {tree : Tree} (h : Denotes text tree) :
    Denotes (Text.strip text) tree := by
  obtain ⟨position, ts, hs, derived⟩ := h
  -- The stripped text starts further on and ends sooner, with the same tokens.
  obtain ⟨lead, trail, whole, leadSpaces, trailSpaces⟩ := Text.exists_strip text
  rw [whole, scan_spaces_append leadSpaces, scan_append_spaces trailSpaces] at hs
  exact ⟨_, ts, hs, derived⟩

/-- A text that denotes a tree is evaluated to what the tree is evaluated to. -/
theorem Denotes.evaluate {text : Text} {tree : Tree} (h : Denotes text tree) {record : Record} {held : Bool}
    (evaluated : tree.evaluate record = .ok held) : Layout.evaluate record text = .ok held := by
  obtain ⟨node, parsed, rfl⟩ := denotes_iff.1 h.strip
  rw [Tree.evaluate_tree record node] at evaluated
  rw [Layout.evaluate, parsed]
  cases evaluated
  rfl

/-! ## Putting texts together -/

theorem seam_cons {d : Char} (breaks : Breaks d) (rest : Text) : Seam (d :: rest) := by
  intro e he
  cases he
  exact breaks

theorem breaks_space : Breaks ' ' := breaks_of_isSpace (by decide)

theorem breaks_rightParen : Breaks ')' := by
  refine ⟨by decide +kernel, by decide, ?_⟩
  exact doubleKind?_eq_none ⟨by decide, by decide, by decide⟩

/-- A token of one character. -/
theorem scan_single {c : Char} {kind : TokenKind} {rest : Text} (space : Text.isSpace c = false)
    (h : lexeme c rest = .ok ⟨kind, [c], rest⟩) (position : Nat) :
    scan position (c :: rest) = (scan (position + 1) rest).map (⟨kind, [c], position⟩ :: ·) := by
  rw [scan_token space h, Nat.add_sub_cancel_left]

/-- A doubled character with a space on either side. -/
theorem scan_separator {c : Char} {kind : TokenKind} {rest : Text} (space : Text.isSpace c = false)
    (h : lexeme c (c :: ' ' :: rest) = .ok ⟨kind, [c, c], ' ' :: rest⟩) (position : Nat) :
    scan position (' ' :: c :: c :: ' ' :: rest) =
      (scan (position + 4) rest).map (⟨kind, [c, c], position + 1⟩ :: ·) := by
  have blank : Text.isSpace ' ' = true := by decide
  have distance : position + 1 + ((c :: ' ' :: rest).length + 1 - (' ' :: rest).length) = position + 3 := by
    simp only [List.length_cons]
    omega
  rw [scan_space blank, scan_token space h, distance, scan_space blank]

theorem lexeme_leftParen (rest : Text) : lexeme '(' rest = .ok ⟨.leftParen, ['('], rest⟩ := by
  cases rest <;> rfl

theorem lexeme_rightParen (rest : Text) : lexeme ')' rest = .ok ⟨.rightParen, [')'], rest⟩ := by
  cases rest <;> rfl

/-- In parentheses, a text is a factor of whatever surrounds it. -/
theorem scan_group {text : Text} {tree : Tree} (h : Denotes text tree) (position : Nat) (rest : Text) :
    ∃ ts, Factor ts tree ∧ scan position ('(' :: (text ++ ')' :: rest)) =
      (scan (position + 1 + text.length + 1) rest).map (ts ++ ·) := by
  obtain ⟨ts, hs, children, derived, rfl⟩ := h.scanned (position + 1)
  refine ⟨⟨.leftParen, ['('], position⟩ :: (ts ++ [⟨.rightParen, [')'], position + 1 + text.length⟩]),
    .group rfl derived rfl, ?_⟩
  rw [scan_single (by decide) (lexeme_leftParen _), scan_append (seam_cons breaks_rightParen rest) (.inl ⟨ts, hs⟩), hs,
    ok_bind, scan_single (by decide) (lexeme_rightParen _)]
  cases scan (position + 1 + text.length + 1) rest with
  | error problem => rfl
  | ok us => simp [Except.map]

/-- What a factor denotes is a whole expression. -/
theorem derives_of_factor {ts : List Token} {tree : Tree} (h : Factor ts tree) : Derives ts tree :=
  ⟨_, .one (.one h), rfl⟩

theorem Denotes.group {text : Text} {tree : Tree} (h : Denotes text tree) :
    Denotes ("(" ++ text ++ ")") tree := by
  obtain ⟨ts, factor, hs⟩ := scan_group h 0 []
  rw [scan_nil] at hs
  refine ⟨0, ts, ?_, derives_of_factor factor⟩
  show scan 0 ('(' :: (text ++ [')'])) = _
  rw [hs]
  exact congrArg Except.ok (List.append_nil ts)

theorem Denotes.not {text : Text} {tree : Tree} (h : Denotes text tree) :
    Denotes ("!(" ++ text ++ ")") (.not tree) := by
  obtain ⟨ts, factor, hs⟩ := scan_group h 1 []
  rw [scan_nil] at hs
  refine ⟨0, ⟨.bang, ['!'], 0⟩ :: ts, ?_, derives_of_factor (.not rfl factor)⟩
  have bang : lexeme '!' ('(' :: (text ++ [')'])) = .ok ⟨.bang, ['!'], '(' :: (text ++ [')'])⟩ := rfl
  show scan 0 ('!' :: '(' :: (text ++ [')'])) = _
  rw [scan_single (by decide) bang, hs]
  exact congrArg (fun us => Except.ok (_ :: us)) (List.append_nil ts)

theorem Denotes.and {text other : Text} {tree second : Tree} (h : Denotes text tree)
    (also : Denotes other second) :
    Denotes ("(" ++ text ++ ") && (" ++ other ++ ")") (.all [tree, second]) := by
  obtain ⟨ts, factor, hs⟩ := scan_group h 0 (' ' :: '&' :: '&' :: ' ' :: '(' :: (other ++ [')']))
  obtain ⟨us, otherFactor, hu⟩ := scan_group also (0 + 1 + text.length + 1 + 4) []
  have between : lexeme '&' ('&' :: ' ' :: '(' :: (other ++ [')'])) =
      .ok ⟨.and, ['&', '&'], ' ' :: '(' :: (other ++ [')'])⟩ := rfl
  have whole : "(" ++ text ++ ") && (" ++ other ++ ")" =
      '(' :: (text ++ ')' :: ' ' :: '&' :: '&' :: ' ' :: '(' :: (other ++ [')'])) := by simp
  -- Behind the first group the scan meets the operator, and behind that the second group ends the text.
  rw [scan_nil] at hu
  rw [scan_separator (by decide) between, hu, ← whole] at hs
  have both : Conjunction (ts ++ ⟨.and, ['&', '&'], 0 + 1 + text.length + 1 + 1⟩ :: (us ++ []))
      [tree, second] := by
    rw [List.append_nil]
    exact .more factor rfl (.one otherFactor)
  exact ⟨0, _, hs, [_], .one both, rfl⟩

theorem Denotes.or {text other : Text} {tree second : Tree} (h : Denotes text tree)
    (also : Denotes other second) :
    ∃ children others, tree = Tree.anyOf children ∧ second = Tree.anyOf others ∧
      Denotes (text ++ " || " ++ other) (Tree.anyOf (children ++ others)) := by
  obtain ⟨ts, hs, children, first, rfl⟩ := h.scanned 0
  obtain ⟨us, hu, others, behind, rfl⟩ := also.scanned (0 + text.length + 4)
  refine ⟨children, others, rfl, rfl, 0, ts ++ ⟨.or, ['|', '|'], 0 + text.length + 1⟩ :: us, ?_, _,
    first.append rfl behind, rfl⟩
  have between : lexeme '|' ('|' :: ' ' :: other) = .ok ⟨.or, ['|', '|'], ' ' :: other⟩ := rfl
  have whole : text ++ " || " ++ other = text ++ ' ' :: '|' :: '|' :: ' ' :: other := by simp
  -- No parentheses shield the first text; its own tokens end at the space, whatever it ends with.
  rw [whole, scan_append (seam_cons breaks_space _) (.inl ⟨ts, hs⟩), hs, ok_bind,
    scan_separator (by decide) between, hu]
  rfl

/-- Wherever two expressions parse, the texts that are made of them with the operators are evaluated to what
the operators make of the two. -/
theorem evaluate_composed {first second : Text} {node other : Node} (parsed : parse first = .ok node)
    (alsoParsed : parse second = .ok other) (record : Record) :
    ∃ a b, Layout.evaluate record first = .ok a ∧ Layout.evaluate record second = .ok b ∧
      Layout.evaluate record (first ++ " || " ++ second) = .ok (a || b) ∧
      Layout.evaluate record ("(" ++ first ++ ") && (" ++ second ++ ")") = .ok (a && b) ∧
      Layout.evaluate record ("!(" ++ first ++ ")") = .ok (!a) ∧
      Layout.evaluate record ("(" ++ first ++ ")") = .ok a := by
  have denotes : Denotes first node.tree := denotes_iff.2 ⟨node, parsed, rfl⟩
  have alsoDenotes : Denotes second other.tree := denotes_iff.2 ⟨other, alsoParsed, rfl⟩
  have held := Tree.evaluate_tree record node
  have alsoHeld := Tree.evaluate_tree record other
  refine ⟨node.holds record, other.holds record, denotes.evaluate held, alsoDenotes.evaluate alsoHeld, ?_,
    ?_, ?_, denotes.group.evaluate held⟩
  · -- The two chains become one, which is evaluated like the one chain and then the other.
    obtain ⟨children, others, hc, ho, either⟩ := denotes.or alsoDenotes
    refine either.evaluate ?_
    rw [hc, Tree.evaluate_anyOf] at held
    rw [ho, Tree.evaluate_anyOf] at alsoHeld
    rw [Tree.evaluate_anyOf, Tree.evaluateAny_append, held, ok_bind, alsoHeld]
    cases node.holds record <;> rfl
  · refine (denotes.and alsoDenotes).evaluate ?_
    rw [Tree.evaluate, Tree.evaluateAll, held, ok_bind, Tree.evaluateAll, alsoHeld, ok_bind,
      Tree.evaluateAll]
    cases node.holds record with
    | true => cases other.holds record <;> rfl
    | false => rfl
  · refine denotes.not.evaluate ?_
    rw [Tree.evaluate, held]
    rfl

/-- The operators and the parentheses in the strings of an expression do not divide it, and a disjunction
goes on with a further part. -/
theorem evaluate_composed_operatorsInStrings :
    ∃ node other, parse "STATUS == 'A' || AMOUNT > 10" = .ok node ∧ parse "NAME == ') && ('" = .ok other ∧
      ∀ record, ∃ a b, Layout.evaluate record "STATUS == 'A' || AMOUNT > 10" = .ok a ∧
        Layout.evaluate record "NAME == ') && ('" = .ok b ∧
        Layout.evaluate record ("STATUS == 'A' || AMOUNT > 10" ++ " || " ++ "NAME == ') && ('") =
          .ok (a || b) ∧
        Layout.evaluate record
          ("(" ++ "STATUS == 'A' || AMOUNT > 10" ++ ") && (" ++ "NAME == ') && ('" ++ ")") = .ok (a && b) ∧
        Layout.evaluate record ("!(" ++ "STATUS == 'A' || AMOUNT > 10" ++ ")") = .ok (!a) ∧
        Layout.evaluate record ("(" ++ "STATUS == 'A' || AMOUNT > 10" ++ ")") = .ok a := by
  have scanned : tokens "STATUS == 'A' || AMOUNT > 10" =
      .ok [⟨.identifier, "STATUS", 0⟩, ⟨.operator, "==", 7⟩, ⟨.string, "A", 10⟩, ⟨.or, "||", 14⟩,
        ⟨.identifier, "AMOUNT", 17⟩, ⟨.operator, ">", 24⟩, ⟨.number, "10", 26⟩] := by
    decide +kernel
  have first : parse "STATUS == 'A' || AMOUNT > 10" =
      .ok (.any [.compare .equal (.field "STATUS" false) (.string "A"),
        .compare .greater (.field "AMOUNT" false) (.number ⟨false, 10, 0⟩ "10")]) :=
    parse_eq_ok_iff.2 ⟨_, scanned, rfl⟩
  have alsoScanned : tokens "NAME == ') && ('" =
      .ok [⟨.identifier, "NAME", 0⟩, ⟨.operator, "==", 5⟩, ⟨.string, ") && (", 8⟩] := by
    decide +kernel
  have second : parse "NAME == ') && ('" = .ok (.compare .equal (.field "NAME" false) (.string ") && (")) :=
    parse_eq_ok_iff.2 ⟨_, alsoScanned, rfl⟩
  exact ⟨_, _, first, second, fun record => evaluate_composed first second record⟩

end FixedExtract.Expression
