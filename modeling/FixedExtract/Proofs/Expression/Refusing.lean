import FixedExtract.Proofs.Computation
import FixedExtract.Proofs.Expression.Cutting
/-!
# Where expressions are refused

An expression is parsed, or it is refused with a fault that has its place in it: where no token starts, at a token
that stands where another one is wanted, or at the end. What a fault says is missing is not there. The fuel of the
parser is enough for every list of tokens, so it never shows.
-/

namespace FixedExtract.Expression

variable {α β : Type} {kind : TokenKind} {wanted : Wanted} {t : Token} {ts read used rest : List Token}

/-! ## What is missed -/

def firstKind (ts : List Token) : Option TokenKind := ts.head?.map Token.kind

/-- The last token of these is such a one. -/
def EndsIn (p : Token → Prop) (ts : List Token) : Prop := ∃ front t, ts = front ++ [t] ∧ p t

/-- What was wanted is not there, when these tokens have been read and those are left. A number that has no value and
a call that may not stand here are noticed when they have been read. -/
def Wanted.Missed (read rest : List Token) : Wanted → Prop
  | .expression => rest = []
  | .endOfExpression => rest ≠ []
  | .closingParenthesis => firstKind rest ≠ some .rightParen
  | .openingParenthesis => firstKind rest ≠ some .leftParen
  | .inAfterNot => keyword? "IN" rest = none
  | .andInBetween => keyword? "AND" rest = none
  | .wordAfterIs =>
    keyword? "NULL" rest = none ∧ keyword? "BLANK" rest = none ∧
      (keyword? "EMPTY" rest = none ∨ EndsIn (fun t => t.isKeyword "NOT" = true) read)
  | .comparison =>
    ∀ t ∈ rest.head?, (t.kind = .operator → Comparator.ofText? t.text = none) ∧
      t.isKeyword "NOT" = false ∧ t.isKeyword "IN" = false ∧ t.isKeyword "BETWEEN" = false ∧
      t.isKeyword "LIKE" = false ∧ t.isKeyword "IS" = false
  | .methodName => firstKind rest ≠ some .identifier
  | .dot => False
  | .operand => ∀ kind ∈ firstKind rest, kind ≠ .string ∧ kind ≠ .number ∧ kind ≠ .identifier
  | .validNumber => EndsIn (fun t => t.kind = .number ∧ Decimal.read? t.text = none) read
  | .noMethodInComparison => EndsIn (fun t => t.kind = .rightParen) read
  | .noMethodHere => EndsIn (fun t => t.kind = .rightParen) read

/-- The refusal is at one of the tokens that follow the ones that have been read, or behind them all; a name that is
no method's has been read. -/
def Refusal.FoundIn (read ts : List Token) : Refusal → Prop
  | .unmet wanted rest => ∃ used, ts = used ++ rest ∧ wanted.Missed (read ++ used) rest
  | .unknownMethod name position =>
    ∃ t ∈ read ++ ts, t.kind = .identifier ∧ t.text = name ∧ t.position = position ∧ Method.ofName? name = none

theorem Refusal.FoundIn.behind {refusal : Refusal} (h : refusal.FoundIn (read ++ used) rest) :
    refusal.FoundIn read (used ++ rest) := by
  cases refusal with
  | unmet wanted left =>
    obtain ⟨more, rfl, missed⟩ := h
    refine ⟨used ++ more, (List.append_assoc ..).symm, ?_⟩
    rwa [← List.append_assoc]
  | unknownMethod name position =>
    obtain ⟨t, ht, here⟩ := h
    refine ⟨t, ?_, here⟩
    rwa [← List.append_assoc]

/-! ## Taking tokens -/

/-- The computation takes some of the tokens off the front, and its result stands in this relation to all the tokens
that have then been read; or it refuses at one of the tokens. -/
structure Takes (Q : α → List Token → Prop) (read ts : List Token) (x : Except Refusal (α × List Token)) : Prop where
  fails : FailsWith (Refusal.FoundIn read ts) x
  takes : ∀ a rest, x = .ok (a, rest) → ∃ used, ts = used ++ rest ∧ Q a (read ++ used)

namespace Takes

variable {Q : α → List Token → Prop} {R : β → List Token → Prop} {x : Except Refusal (α × List Token)}
  {f : α × List Token → Except Refusal (β × List Token)}

theorem ok {a : α} (h : Q a read) : Takes Q read ts (.ok (a, ts)) where
  fails := .ok _
  takes := by
    rintro _ _ ⟨⟩
    refine ⟨[], rfl, ?_⟩
    rwa [List.append_nil]

theorem error {refusal : Refusal} (h : refusal.FoundIn read ts) : Takes Q read ts (.error refusal) where
  fails := .error h
  takes := by
    intro a rest result
    cases result

theorem missed (h : wanted.Missed read ts) : Takes Q read ts (.error (.unmet wanted ts)) := by
  refine .error ⟨[], rfl, ?_⟩
  rwa [List.append_nil]

/-- Tokens that are there are passed over. -/
theorem behind (h : Takes Q (read ++ used) rest x) : Takes Q read (used ++ rest) x where
  fails := h.fails.mono fun _ found => found.behind
  takes := by
    intro a left same
    obtain ⟨more, rfl, q⟩ := h.takes a left same
    refine ⟨used ++ more, (List.append_assoc ..).symm, ?_⟩
    rwa [← List.append_assoc]

theorem token (h : Takes Q (read ++ [t]) rest x) : Takes Q read (t :: rest) x :=
  show Takes Q read ([t] ++ rest) x from h.behind

/-- What comes next starts with the tokens that the first part leaves. -/
theorem bind (first : Takes Q read ts x)
    (next : ∀ a used rest, ts = used ++ rest → Q a (read ++ used) → Takes R (read ++ used) rest (f (a, rest))) :
    Takes R read ts (x >>= f) := by
  cases result : x with
  | error e => exact .error (first.fails e result)
  | ok part =>
    obtain ⟨a, rest⟩ := part
    obtain ⟨used, rfl, q⟩ := first.takes a rest result
    exact (next a used rest rfl q).behind

end Takes

/-- Of this result nothing is told. -/
def Untold {α : Type} (_ : α) (_ : List Token) : Prop := True

/-- What comes next only makes a result of what has been read. -/
theorem Takes.finish {Q : α → List Token → Prop} {x : Except Refusal (α × List Token)}
    {f : α × List Token → Except Refusal (β × List Token)} (first : Takes Q read ts x)
    (done : ∀ a rest, ∃ b, f (a, rest) = .ok (b, rest)) : Takes Untold read ts (x >>= f) := by
  refine first.bind ?_
  intro a used rest _ _
  obtain ⟨b, made⟩ := done a rest
  rw [made]
  exact .ok trivial

/-- The computation goes on behind the token that is wanted, or the token is missed. -/
theorem expect_bind_takes {Q : α → List Token → Prop} {f : Token × List Token → Except Refusal (α × List Token)}
    (missed : firstKind ts ≠ some kind → wanted.Missed read ts)
    (next : ∀ t rest, ts = t :: rest → t.kind = kind → Takes Q (read ++ [t]) rest (f (t, rest))) :
    Takes Q read ts (expect kind wanted ts >>= f) := by
  cases ts with
  | nil => exact .missed (missed (Option.some_ne_none kind).symm)
  | cons t rest =>
    by_cases here : t.kind = kind
    · have found : expect kind wanted (t :: rest) = .ok (t, rest) := if_pos here
      rw [found]
      exact (next t rest rfl here).token
    · have other : expect kind wanted (t :: rest) = .error (.unmet wanted (t :: rest)) := if_neg here
      rw [other]
      exact .missed (missed fun same => here (Option.some.inj same))

/-! ## Operands -/

/-- A call is read up to its closing parenthesis. -/
def Closed (term : Term) (read : List Token) : Prop :=
  ∀ node, term = .call node → EndsIn (fun t => t.kind = .rightParen) read

theorem closed_plain (operand : Operand) : Closed (.plain operand) read := by
  intro node same
  cases same

theorem closed_call (node : Node) (closing : t.kind = .rightParen) : Closed (.call node) (read ++ [t]) :=
  fun _ _ => ⟨read, t, rfl, closing⟩

theorem operandOrCall_takes {fuel : Nat} (enough : ts.length < fuel) (fallback : Bool) (read : List Token) :
    Takes Closed read ts (operandOrCall fallback fuel ts) := by
  -- The induction is on the fuel: a call spends one unit on its argument, and more than one token.
  induction fuel generalizing fallback ts read with
  | zero => exact absurd enough (Nat.not_lt_zero _)
  | succ fuel ih =>
    cases ts with
    | nil =>
      unfold operandOrCall
      exact .missed fun kind hk => absurd hk (Option.not_mem_none kind)
    | cons t rest =>
      unfold operandOrCall
      split
      · exact Takes.token (.ok (closed_plain _))
      · next number =>
        split
        · exact Takes.token (.ok (closed_plain _))
        · next unread => exact Takes.token (.missed ⟨read, t, rfl, number, unread⟩)
      · split
        · split
          · exact Takes.token (.ok (closed_plain _))
          · next d afterDot =>
            split
            · exact Takes.token (.ok (closed_plain _))
            · refine Takes.token (Takes.token ?_)
              refine expect_bind_takes id ?_
              intro m rest cut identifier
              dsimp only
              split
              · next unknown =>
                refine .error ?_
                exact ⟨m, by simp, identifier, rfl, rfl, unknown⟩
              · next p known =>
                refine expect_bind_takes id ?_
                intro opening rest _ _
                refine expect_bind_takes id ?_
                intro closing rest _ closes
                exact .ok (closed_call _ closes)
              · next o known =>
                refine expect_bind_takes id ?_
                intro opening inside cut' _
                have shorter : inside.length < fuel := by
                  rw [cut, cut'] at enough
                  simp only [List.length_cons] at enough
                  omega
                refine (ih shorter false _).bind ?_
                intro argument used rest _ closed
                dsimp only
                split
                · next node => exact .missed (closed node rfl)
                · next operand =>
                  refine expect_bind_takes id ?_
                  intro closing rest _ closes
                  exact .ok (closed_call _ closes)
        · exact Takes.token (.ok (closed_plain _))
      · next noString noNumber noIdentifier =>
        refine .missed ?_
        rintro _ ⟨⟩
        exact ⟨noString, noNumber, noIdentifier⟩

theorem plainOperand_takes (read ts : List Token) : Takes Untold read ts (plainOperand ts) := by
  refine (operandOrCall_takes (Nat.lt_succ_self ts.length) true read).bind ?_
  intro term used rest _ closed
  cases term with
  | plain operand => exact .ok trivial
  | call node => exact .missed (closed node rfl)

/-! ## Tests -/

theorem moreOptions_takes {fuel : Nat} (enough : ts.length < fuel) (read : List Token) :
    Takes Untold read ts (moreOptions fuel ts) := by
  induction fuel generalizing ts read with
  | zero => exact absurd enough (Nat.not_lt_zero _)
  | succ fuel ih =>
    cases ts with
    | nil =>
      unfold moreOptions
      exact .missed (Option.some_ne_none TokenKind.rightParen).symm
    | cons t rest =>
      unfold moreOptions
      dsimp only
      split
      · refine Takes.token ((plainOperand_takes _ rest).bind ?_)
        rintro option used behind rfl _
        have shorter : behind.length < fuel := by
          rw [List.length_cons, List.length_append] at enough
          omega
        exact (ih shorter _).finish fun options _ => ⟨_, rfl⟩
      · refine expect_bind_takes id ?_
        intro closing _ _ _
        exact .ok trivial

theorem optionList_takes (read ts : List Token) : Takes Untold read ts (optionList ts) := by
  refine expect_bind_takes id ?_
  intro opening rest _ _
  refine (plainOperand_takes _ rest).bind ?_
  intro first _ behind _ _
  exact (moreOptions_takes (Nat.lt_succ_self behind.length) _).finish fun more _ => ⟨_, rfl⟩

theorem takes_of_keyword? {Q : α → List Token → Prop} {word : Text} {x : Except Refusal (α × List Token)}
    (found : keyword? word ts = some rest)
    (next : ∀ t, t.isKeyword word = true → Takes Q (read ++ [t]) rest x) : Takes Q read ts x := by
  obtain ⟨t, rfl, isWord⟩ := keyword?_eq_some_iff.1 found
  exact (next t (isKeyword_eq_true_iff.2 isWord)).token

theorem propertyWord_takes (read ts : List Token) : Takes Untold read ts (propertyWord ts) := by
  unfold propertyWord
  cases negation : keyword? "NOT" ts with
  | some behind =>
    refine takes_of_keyword? negation ?_
    intro not isNot
    dsimp only
    cases null : keyword? "NULL" behind with
    | some rest => exact takes_of_keyword? null fun _ _ => .ok trivial
    | none =>
      cases blank : keyword? "BLANK" behind with
      | some rest => exact takes_of_keyword? blank fun _ _ => .ok trivial
      | none =>
        -- No word is left that may be negated.
        have missed : Wanted.wordAfterIs.Missed (read ++ [not]) behind := ⟨null, blank, .inr ⟨read, not, rfl, isNot⟩⟩
        cases keyword? "EMPTY" behind with
        | some rest => exact .missed missed
        | none => exact .missed missed
  | none =>
    dsimp only
    cases null : keyword? "NULL" ts with
    | some rest => exact takes_of_keyword? null fun _ _ => .ok trivial
    | none =>
      cases blank : keyword? "BLANK" ts with
      | some rest => exact takes_of_keyword? blank fun _ _ => .ok trivial
      | none =>
        cases empty : keyword? "EMPTY" ts with
        | some rest => exact takes_of_keyword? empty fun _ _ => .ok trivial
        | none => exact .missed ⟨null, blank, .inl empty⟩

theorem testOf_takes (left : Operand) (read ts : List Token) : Takes Untold read ts (testOf left ts) := by
  cases ts with
  | nil =>
    unfold testOf
    exact .missed fun t ht => absurd ht (Option.not_mem_none t)
  | cons t rest =>
    unfold testOf
    dsimp only
    -- The operators come first, then the keywords one by one.
    split
    · refine Takes.token ((operandOrCall_takes (Nat.lt_succ_self rest.length) true _).bind ?_)
      intro right used behind _ closed
      cases right with
      | plain right => exact .ok trivial
      | call node => exact .missed (closed node rfl)
    · next noOperator =>
      split
      · refine Takes.token ?_
        split
        · next noIn => exact .missed noIn
        · next behind found =>
          refine takes_of_keyword? found ?_
          intro _ _
          exact (optionList_takes _ behind).finish fun options _ => ⟨_, rfl⟩
      · next noNot =>
        split
        · exact Takes.token ((optionList_takes _ rest).finish fun options _ => ⟨_, rfl⟩)
        · next noIn =>
          split
          · refine Takes.token ((plainOperand_takes _ rest).bind ?_)
            intro low _ behind _ _
            dsimp only
            split
            · next noAnd => exact .missed noAnd
            · next more found =>
              refine takes_of_keyword? found ?_
              intro _ _
              exact (plainOperand_takes _ more).finish fun high _ => ⟨_, rfl⟩
          · next noBetween =>
            split
            · exact Takes.token ((plainOperand_takes _ rest).finish fun pattern _ => ⟨_, rfl⟩)
            · next noLike =>
              split
              · exact Takes.token ((propertyWord_takes _ rest).finish fun property _ => ⟨_, rfl⟩)
              · next noIs =>
                refine .missed ?_
                rintro _ ⟨⟩
                refine ⟨?_, Bool.eq_false_iff.2 noNot, Bool.eq_false_iff.2 noIn, Bool.eq_false_iff.2 noBetween,
                  Bool.eq_false_iff.2 noLike, Bool.eq_false_iff.2 noIs⟩
                intro operator
                rw [Option.eq_none_iff_forall_not_mem]
                intro op known
                exact noOperator op operator known

theorem predicate_takes (read ts : List Token) : Takes Untold read ts (predicate ts) := by
  refine (operandOrCall_takes (Nat.lt_succ_self ts.length) false read).bind ?_
  intro term used rest _ _
  cases term with
  | call node => exact .ok trivial
  | plain left => exact testOf_takes left _ rest

/-! ## Boolean structure -/

/-- This much fuel is enough at each of the three levels. -/
structure TakesAt (fuel : Nat) : Prop where
  disjunction : ∀ {read ts : List Token}, 3 * ts.length + 3 ≤ fuel → Takes Untold read ts (disjunction fuel ts)
  conjunction : ∀ {read ts : List Token}, 3 * ts.length + 2 ≤ fuel → Takes Untold read ts (conjunction fuel ts)
  factor : ∀ {read ts : List Token}, 3 * ts.length + 1 ≤ fuel → Takes Untold read ts (factor fuel ts)

theorem disjunction_takes {fuel : Nat} (below : TakesAt fuel) (enough : 3 * ts.length + 3 ≤ fuel + 1) :
    Takes Untold read ts (disjunction (fuel + 1) ts) := by
  unfold disjunction
  refine (below.conjunction (by omega)).bind ?_
  rintro children used rest rfl _
  rw [List.length_append] at enough
  dsimp only
  split
  · exact .ok trivial
  · next t more =>
    rw [List.length_cons] at enough
    split
    · exact Takes.token ((below.disjunction (by omega)).finish fun others _ => ⟨_, rfl⟩)
    · exact .ok trivial

theorem conjunction_takes {fuel : Nat} (below : TakesAt fuel) (enough : 3 * ts.length + 2 ≤ fuel + 1) :
    Takes Untold read ts (conjunction (fuel + 1) ts) := by
  unfold conjunction
  refine (below.factor (by omega)).bind ?_
  rintro child used rest rfl _
  rw [List.length_append] at enough
  dsimp only
  split
  · exact .ok trivial
  · next t more =>
    rw [List.length_cons] at enough
    split
    · exact Takes.token ((below.conjunction (by omega)).finish fun others _ => ⟨_, rfl⟩)
    · exact .ok trivial

theorem factor_takes {fuel : Nat} (below : TakesAt fuel) (enough : 3 * ts.length + 1 ≤ fuel + 1) :
    Takes Untold read ts (factor (fuel + 1) ts) := by
  cases ts with
  | nil =>
    unfold factor
    exact predicate_takes read []
  | cons t rest =>
    rw [List.length_cons] at enough
    unfold factor
    split
    · exact Takes.token ((below.factor (by omega)).finish fun node _ => ⟨_, rfl⟩)
    · refine Takes.token ((below.disjunction (by omega)).bind ?_)
      intro children _ _ _ _
      refine expect_bind_takes id ?_
      intro closing _ _ _
      exact .ok trivial
    · exact predicate_takes read _

theorem takesAt (fuel : Nat) : TakesAt fuel := by
  -- Every level hands one unit of fuel down, and only a token brings a lower level back up: it is worth three.
  induction fuel with
  | zero =>
    have noFuel : ∀ {n k : Nat}, ¬ 3 * n + (k + 1) ≤ 0 := fun {_ _} => Nat.not_succ_le_zero _
    exact ⟨fun h => absurd h noFuel, fun h => absurd h noFuel, fun h => absurd h noFuel⟩
  | succ fuel below =>
    exact ⟨disjunction_takes below, conjunction_takes below, factor_takes below⟩

theorem parseTokens_failsWith (ts : List Token) : FailsWith (Refusal.FoundIn [] ts) (parseTokens ts) := by
  cases ts with
  | nil => exact .error ⟨[], rfl, rfl⟩
  | cons t rest =>
    have whole : Takes Untold [] (t :: rest) (disjunction (3 * (rest.length + 1) + 3) (t :: rest)) :=
      (takesAt _).disjunction (Nat.le_refl _)
    obtain ⟨fails, takes⟩ := whole
    refine fails.bind_of_ok ?_
    rintro ⟨children, left⟩ same
    obtain ⟨used, cut, -⟩ := takes children left same
    cases left with
    | nil => exact .ok _
    | cons u more => exact .error ⟨used, cut, List.cons_ne_nil u more⟩

/-! ## Where no token starts -/

/-- The scanner stops behind tokens and white space, at a character with which no token starts. -/
theorem scan_eq_error {position place : Nat} {text : Text} {problem : LexProblem}
    (h : scan position text = .error (place, problem)) :
    ∃ front ts c behind, text = front ++ c :: behind ∧ place = position + front.length ∧ CutInto position front ts ∧
      Text.isSpace c = false ∧ lexeme c behind = .error problem := by
  fun_induction scan position text with
  | case1 => cases h
  | case2 position c behind space ih =>
    obtain ⟨front, ts, d, more, rfl, here, cut, stops⟩ := ih h
    refine ⟨c :: front, ts, d, more, rfl, ?_, .space space cut, stops⟩
    rw [here, List.length_cons]
    omega
  | case3 position c behind noSpace problem stops =>
    cases h
    exact ⟨[], [], c, behind, rfl, rfl, .nil, Bool.eq_false_iff.2 noSpace, stops⟩
  | case4 position c behind noSpace found token ih =>
    obtain ⟨source, isSource, whole⟩ := exists_source_of_lexeme token
    rw [length_source whole] at ih h
    cases scanned : scan (position + source.length) found.rest with
    | ok others =>
      rw [scanned] at h
      cases h
    | error e =>
      rw [scanned] at h
      cases h
      -- The place is counted from behind this token there, and from in front of it here.
      obtain ⟨front, ts, d, more, left, here, cut, stops⟩ := ih scanned
      refine ⟨source ++ front, _, d, more, ?_, ?_, .token isSource cut, stops⟩
      · rw [whole, left, List.append_assoc]
      · rw [here, List.length_append, Nat.add_assoc]

/-- At this position, behind tokens and white space, there is a character with which no token starts. -/
def StopsAt (expression : Text) (position : Nat) (c : Char) : Prop :=
  ∃ front ts behind, expression = front ++ c :: behind ∧ position = front.length ∧ CutInto 0 front ts ∧
    Text.isSpace c = false ∧ StartsNoToken (c :: behind)

/-- The fault has its place in the expression, and what it says is missing is not there. A character that may not stand
there starts no token at all, or the second character of its token is missing. -/
def Fault.Placed (fault : Fault) : Prop :=
  match fault.cause with
  | .unterminatedString => ∃ quote, IsQuote quote ∧ StopsAt fault.expression fault.position quote
  | .unexpectedCharacter c =>
    ¬ IsQuote c ∧ StopsAt fault.expression fault.position c ∧
      (c ∈ ['-', '&', '|'] ∨ ∀ behind, StartsNoToken (c :: behind))
  | .unknownMethod name =>
    ∃ ts, tokens fault.expression = .ok ts ∧ CutInto 0 fault.expression ts ∧
      ∃ t ∈ ts, t.kind = .identifier ∧ t.text = name ∧ t.position = fault.position ∧ Method.ofName? name = none
  | .unmet wanted found =>
    ∃ read rest, tokens fault.expression = .ok (read ++ rest) ∧ CutInto 0 fault.expression (read ++ rest) ∧
      wanted.Missed read rest ∧ found = rest.head?.map Token.text ∧
      fault.position = (rest.head?.map Token.position).getD fault.expression.length

theorem StopsAt.position_le {expression : Text} {position : Nat} {c : Char} (h : StopsAt expression position c) :
    position ≤ expression.length := by
  obtain ⟨front, ts, behind, rfl, rfl, -⟩ := h
  rw [List.length_append]
  exact Nat.le_add_right ..

theorem CutInto.position_le {expression : Text} (h : CutInto 0 expression ts) (ht : t ∈ ts) :
    t.position ≤ expression.length := by
  have bound := (h.position_bounds t ht).2
  omega

theorem Fault.Placed.position_le {fault : Fault} (h : fault.Placed) : fault.position ≤ fault.expression.length := by
  unfold Fault.Placed at h
  -- One case for each cause.
  split at h
  · obtain ⟨_, -, stops⟩ := h
    exact stops.position_le
  · exact h.2.1.position_le
  · obtain ⟨ts, -, cut, t, ht, -, -, here, -⟩ := h
    rw [← here]
    exact cut.position_le ht
  · obtain ⟨read, rest, -, cut, -, -, here⟩ := h
    rw [here]
    cases rest with
    | nil => exact Nat.le_refl _
    | cons t more => exact cut.position_le (List.mem_append_right read List.mem_cons_self)

theorem placed_of_tokens {expression : Text} {fault : Fault} (h : tokens expression = .error fault) :
    fault.expression = expression ∧ fault.Placed := by
  unfold tokens at h
  split at h
  · cases h
  · next position problem scanned =>
    cases h
    refine ⟨rfl, ?_⟩
    obtain ⟨front, ts, c, behind, whole, here, cut, noSpace, stops⟩ := scan_eq_error scanned
    rw [Nat.zero_add] at here
    obtain ⟨noToken, why⟩ := startsNoToken_of_lexeme stops
    have place : StopsAt expression position c := ⟨front, ts, behind, whole, here, cut, noSpace, noToken⟩
    cases problem with
    | unterminatedString => exact ⟨c, why, place⟩
    | unexpectedCharacter d =>
      obtain ⟨rfl, notQuote⟩ := why
      exact ⟨notQuote, place, startsNoToken_of_unexpected stops⟩

theorem placed_of_refusal {expression : Text} {refusal : Refusal} (scanned : tokens expression = .ok ts)
    (h : refusal.FoundIn [] ts) :
    (refusal.fault expression).expression = expression ∧ (refusal.fault expression).Placed := by
  have cut : CutInto 0 expression ts := cutInto_of_scan (tokens_eq_ok_iff.1 scanned)
  cases refusal with
  | unmet wanted rest =>
    obtain ⟨read, rfl, missed⟩ := h
    cases rest with
    | nil => exact ⟨rfl, read, [], scanned, cut, missed, rfl, rfl⟩
    | cons t more => exact ⟨rfl, read, t :: more, scanned, cut, missed, rfl, rfl⟩
  | unknownMethod name position => exact ⟨rfl, ts, scanned, cut, h⟩

/-- Every expression is parsed, or refused with a fault that has its place in it: at the start of one of its tokens, at
a character with which no token starts, such as the quote of a string without an end, or at the end. -/
theorem parse_ok_or_placed (expression : Text) :
    (∃ node, parse expression = .ok node) ∨
      ∃ fault, parse expression = .error fault ∧ fault.expression = expression ∧
        fault.position ≤ expression.length ∧ fault.Placed := by
  have placed : FailsWith (fun fault => fault.expression = expression ∧ fault.Placed) (parse expression) := by
    unfold parse
    refine FailsWith.bind_of_ok (fun fault => placed_of_tokens) ?_
    intro ts scanned
    split
    · exact .ok _
    · next refusal refused =>
      refine .error ?_
      exact placed_of_refusal scanned (parseTokens_failsWith ts refusal refused)
  cases parsed : parse expression with
  | ok node => exact .inl ⟨node, rfl⟩
  | error fault =>
    obtain ⟨rfl, here⟩ := placed fault parsed
    exact .inr ⟨fault, rfl, rfl, here.position_le, here⟩

/-- The sign is a digit and no decimal digit: the number is refused when it has been read, and the place is the end. -/
example : (parse "A = ²").map (fun _ => ()) = .error ⟨"A = ²", 5, .unmet .validNumber none⟩ := by
  decide +kernel

end FixedExtract.Expression
