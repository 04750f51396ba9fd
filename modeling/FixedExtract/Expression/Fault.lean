import FixedExtract.Text.Quoted
/-!
# Faults in expressions

Why an expression is refused, and where. The cause is kept apart from its wording, which one function
gives. A cause that a token was looked for but not found says which token stood there instead.
-/

namespace FixedExtract.Expression

/-- What the parser wanted at the place where it stopped. -/
inductive Wanted where
  | expression
  | endOfExpression
  | closingParenthesis
  | openingParenthesis
  | inAfterNot
  | andInBetween
  | wordAfterIs
  | comparison
  | methodName
  | dot
  | operand
  | validNumber
  | noMethodInComparison
  | noMethodHere
  deriving DecidableEq, Repr

def Wanted.message : Wanted → Text
  | .expression => "Empty expression"
  | .endOfExpression => "Unexpected token"
  | .closingParenthesis => "Expected ')'"
  | .openingParenthesis => "Expected '('"
  | .inAfterNot => "Expected IN after NOT"
  | .andInBetween => "Expected AND in BETWEEN"
  | .wordAfterIs => "Expected NULL, BLANK or EMPTY after IS"
  | .comparison => "Expected comparison operator"
  | .methodName => "Expected method name"
  | .dot => "Expected '.'"
  | .operand => "Expected field name or literal"
  | .validNumber => "Invalid number"
  | .noMethodInComparison => "Method call cannot be compared"
  | .noMethodHere => "Method call not allowed here"

inductive Cause where
  | unterminatedString
  | unexpectedCharacter (c : Char)
  | unknownMethod (name : Text)
  /-- The token found is none at the end of the expression. -/
  | unmet (wanted : Wanted) (found : Option Text)
  deriving DecidableEq, Repr

/-- A refused expression, with the position of the fault in it. -/
structure Fault where
  expression : Text
  position : Nat
  cause : Cause
  deriving DecidableEq, Repr

namespace Fault

def message (fault : Fault) : Text :=
  let place : Text := " at position " ++ Text.ofNat fault.position
  match fault.cause with
  | .unterminatedString => "Unterminated string literal" ++ place
  | .unexpectedCharacter c => "Unexpected character " ++ Text.quoted [c] ++ place
  | .unknownMethod name => "Unknown method " ++ Text.quoted name ++ place
  | .unmet wanted found =>
    wanted.message ++ place ++ ", found " ++
      (match found with
       | some text => Text.quoted text
       | none => "end of expression")

/-- Did the parser stop at a token it had no use for? -/
def isUnmet (fault : Fault) : Bool :=
  match fault.cause with
  | .unmet .. => true
  | _ => false

end Fault
end FixedExtract.Expression
