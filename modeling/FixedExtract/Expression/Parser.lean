import FixedExtract.Decimal.Basic
import FixedExtract.Expression.Token
import FixedExtract.Expression.Node
import FixedExtract.Text.Case
/-!
# Parsing expressions

A recursive-descent parser over the list of tokens. Disjunction binds weakest, then conjunction, then
negation; a chain of one operand is that operand, and longer chains are flat. Keywords are ordinary
identifiers that are recognised by their place alone, in any case.

Every function takes the tokens that are left and gives its result with the tokens behind it. Where one
stops, it reports what it wanted and the tokens it stopped at.
-/

namespace FixedExtract.Expression

/-- Why the parser stopped. -/
inductive Refusal where
  | unmet (wanted : Wanted) (rest : List Token)
  | unknownMethod (name : Text) (position : Nat)
  deriving DecidableEq, Repr

/-- An operand position may hold a method call, which is a test already. -/
inductive Term where
  | plain (operand : Operand)
  | call (node : Node)

/-! ## Tokens -/

/-- The text of the first token when it has the kind wanted. -/
def expect (kind : TokenKind) (wanted : Wanted) :
    List Token → Except Refusal (Token × List Token)
  | [] => .error (.unmet wanted [])
  | t :: rest => if t.kind = kind then .ok (t, rest) else .error (.unmet wanted (t :: rest))

/-- Is the token this keyword? -/
def Token.isKeyword (word : Text) (t : Token) : Bool :=
  t.kind = .identifier && Text.upper t.text == word

/-- The tokens behind a keyword, when it comes first. -/
def keyword? (word : Text) : List Token → Option (List Token)
  | [] => none
  | t :: rest => if t.isKeyword word then some rest else none

/-- The operand that an identifier stands for where no method is called on it. -/
def wordOperand (fallback : Bool) (name : Text) : Operand :=
  if Text.lower name == "null" then .null
  else if Text.lower name == "true" then .boolean true
  else if Text.lower name == "false" then .boolean false
  else .field name fallback

/-! ## Operands -/

/-- Parses an operand, or a method call on a field. In a plain position a call is refused. The fuel
bounds how deep calls nest in arguments. -/
def operandOrCall (fallback : Bool) : (fuel : Nat) → List Token → Except Refusal (Term × List Token)
  | _, [] => .error (.unmet .operand [])
  | 0, ts => .error (.unmet .operand ts)
  | fuel + 1, t :: rest =>
    match t.kind with
    | .string => .ok (.plain (.string t.text), rest)
    | .number =>
      match Decimal.read? t.text with
      | some value => .ok (.plain (.number value t.text), rest)
      | none => .error (.unmet .validNumber rest)
    | .identifier =>
      match wordOperand fallback t.text with
      | .field name _ =>
        match rest with
        | [] => .ok (.plain (.field name fallback), [])
        | d :: afterDot =>
          if d.kind ≠ .dot then .ok (.plain (.field name fallback), d :: afterDot)
          else do
            let (m, rest) ← expect .identifier .methodName afterDot
            match Method.ofName? m.text with
            | none => .error (.unknownMethod m.text m.position)
            | some (.property p) =>
              let (_, rest) ← expect .leftParen .openingParenthesis rest
              let (_, rest) ← expect .rightParen .closingParenthesis rest
              return (.call (.check (.field name false) p), rest)
            | some (.search o) =>
              let (_, rest) ← expect .leftParen .openingParenthesis rest
              let (argument, rest) ← operandOrCall false fuel rest
              match argument with
              | .call _ => .error (.unmet .noMethodHere rest)
              | .plain argument =>
                let (_, rest) ← expect .rightParen .closingParenthesis rest
                return (.call (.search (.field name false) o argument), rest)
      | operand => .ok (.plain operand, rest)
    | _ => .error (.unmet .operand (t :: rest))

/-- Parses an operand on the right-hand side of a test, where a bare word may be a literal. -/
def plainOperand (ts : List Token) : Except Refusal (Operand × List Token) := do
  let (term, rest) ← operandOrCall true (ts.length + 1) ts
  match term with
  | .plain operand => return (operand, rest)
  | .call _ => throw (.unmet .noMethodHere rest)

/-! ## Tests -/

/-- Parses the options behind the first one, up to the closing parenthesis. -/
def moreOptions : (fuel : Nat) → List Token → Except Refusal (List Operand × List Token)
  | 0, ts => .error (.unmet .closingParenthesis ts)
  | fuel + 1, ts =>
    match ts with
    | [] => .error (.unmet .closingParenthesis [])
    | t :: rest =>
      if t.kind = .comma then do
        let (option, rest) ← plainOperand rest
        let (options, rest) ← moreOptions fuel rest
        return (option :: options, rest)
      else do
        let (_, rest) ← expect .rightParen .closingParenthesis (t :: rest)
        return ([], rest)

/-- Parses a list of options in parentheses. -/
def optionList (ts : List Token) : Except Refusal (List Operand × List Token) := do
  let (_, rest) ← expect .leftParen .openingParenthesis ts
  let (first, rest) ← plainOperand rest
  let (more, rest) ← moreOptions (rest.length + 1) rest
  return (first :: more, rest)

/-- Parses what may follow `IS`. -/
def propertyWord (ts : List Token) : Except Refusal (Property × List Token) :=
  let (negated, ts) : Bool × List Token :=
    match keyword? "NOT" ts with
    | some rest => (true, rest)
    | none => (false, ts)
  match keyword? "NULL" ts, keyword? "BLANK" ts, keyword? "EMPTY" ts with
  | some rest, _, _ => .ok (if negated then .isNotNull else .isNull, rest)
  | _, some rest, _ => .ok (if negated then .isNotBlank else .isBlank, rest)
  | _, _, some rest =>
    if negated then .error (.unmet .wordAfterIs ts) else .ok (.isEmpty, rest)
  | none, none, none => .error (.unmet .wordAfterIs ts)

/-- Parses the rest of a test whose left operand has been read. -/
def testOf (left : Operand) (ts : List Token) : Except Refusal (Node × List Token) :=
  match ts with
  | [] => .error (.unmet .comparison [])
  | t :: rest =>
    match t.kind, Comparator.ofText? t.text with
    | .operator, some op => do
      let (right, rest) ← operandOrCall true (rest.length + 1) rest
      match right with
      | .plain right => return (.compare op left right, rest)
      | .call _ => throw (.unmet .noMethodInComparison rest)
    | _, _ =>
      if t.isKeyword "NOT" then
        match keyword? "IN" rest with
        | none => .error (.unmet .inAfterNot rest)
        | some rest => do
          let (options, rest) ← optionList rest
          return (.oneOf left options true, rest)
      else if t.isKeyword "IN" then do
        let (options, rest) ← optionList rest
        return (.oneOf left options false, rest)
      else if t.isKeyword "BETWEEN" then do
        let (low, rest) ← plainOperand rest
        match keyword? "AND" rest with
        | none => throw (.unmet .andInBetween rest)
        | some rest =>
          let (high, rest) ← plainOperand rest
          return (.between left low high, rest)
      else if t.isKeyword "LIKE" then do
        let (pattern, rest) ← plainOperand rest
        return (.like left pattern, rest)
      else if t.isKeyword "IS" then do
        let (property, rest) ← propertyWord rest
        return (.check left property, rest)
      else .error (.unmet .comparison (t :: rest))

/-- Parses a test. -/
def predicate (ts : List Token) : Except Refusal (Node × List Token) := do
  let (term, rest) ← operandOrCall false (ts.length + 1) ts
  match term with
  | .call node => return (node, rest)
  | .plain left => testOf left rest

/-! ## Boolean structure -/

/-- A chain of one child is the child itself. -/
def allOf : List Node → Node
  | [node] => node
  | children => .all children

/-- A chain of one child is the child itself. -/
def anyOf : List Node → Node
  | [node] => node
  | children => .any children

mutual

/-- Parses a chain of conjunctions divided by `||`. The fuel drops by one at every step down and at
every operator. -/
def disjunction : (fuel : Nat) → List Token → Except Refusal (List Node × List Token)
  | 0, ts => .error (.unmet .operand ts)
  | fuel + 1, ts => do
    let (children, rest) ← conjunction fuel ts
    match rest with
    | [] => return ([allOf children], [])
    | t :: more =>
      if t.kind = .or then do
        let (others, rest) ← disjunction fuel more
        return (allOf children :: others, rest)
      else return ([allOf children], t :: more)

/-- Parses a chain of factors divided by `&&`. -/
def conjunction : (fuel : Nat) → List Token → Except Refusal (List Node × List Token)
  | 0, ts => .error (.unmet .operand ts)
  | fuel + 1, ts => do
    let (child, rest) ← factor fuel ts
    match rest with
    | [] => return ([child], [])
    | t :: more =>
      if t.kind = .and then do
        let (others, rest) ← conjunction fuel more
        return (child :: others, rest)
      else return ([child], t :: more)

/-- Parses a negation, an expression in parentheses, or a test. -/
def factor : (fuel : Nat) → List Token → Except Refusal (Node × List Token)
  | 0, ts => .error (.unmet .operand ts)
  | _ + 1, [] => predicate []
  | fuel + 1, t :: rest =>
    match t.kind with
    | .bang => do
      let (node, rest) ← factor fuel rest
      return (.not node, rest)
    | .leftParen => do
      let (children, rest) ← disjunction fuel rest
      let (_, rest) ← expect .rightParen .closingParenthesis rest
      return (anyOf children, rest)
    | _ => predicate (t :: rest)

end

/-- Parses a whole list of tokens. -/
def parseTokens : List Token → Except Refusal Node
  | [] => .error (.unmet .expression [])
  | t :: rest => do
    let (children, left) ← disjunction (3 * (rest.length + 1) + 3) (t :: rest)
    match left with
    | [] => return anyOf children
    | left => throw (.unmet .endOfExpression left)

/-- The fault that a refusal amounts to in an expression. -/
def Refusal.fault (expression : Text) : Refusal → Fault
  | .unmet wanted [] => ⟨expression, expression.length, .unmet wanted none⟩
  | .unmet wanted (t :: _) => ⟨expression, t.position, .unmet wanted (some t.text)⟩
  | .unknownMethod name position => ⟨expression, position, .unknownMethod name⟩

/-- Parses an expression. -/
def parse (expression : Text) : Except Fault Node := do
  let ts ← tokens expression
  match parseTokens ts with
  | .ok node => return node
  | .error refusal => throw (refusal.fault expression)

end FixedExtract.Expression
