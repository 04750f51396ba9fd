import FixedExtract.Expression.Evaluation
import FixedExtract.Expression.Parser
import FixedExtract.Layout.Basic
/-!
# Choosing a branch

A conditional field takes the value of the first branch whose expression holds. Conditions are tried in
order, each with all its branches and its else before the next. Expressions are parsed when they are
tried, so that a malformed one counts only if it is reached.
-/

namespace FixedExtract.Layout

open Expression (Node)

/-- Which branch gave a value. Conditions and branches are counted from zero. -/
inductive Branch where
  | ifBranch (condition : Nat)
  | elseIf (condition branch : Nat)
  | otherwise (condition : Nat)
  | fallback
  | none
  deriving DecidableEq, Repr

namespace Branch

def name : Branch → Text
  | .ifBranch _ => "if"
  | .elseIf .. => "else_if"
  | .otherwise _ => "else"
  | .fallback => "default"
  | .none => "none"

def conditionIndex? : Branch → Option Nat
  | .ifBranch condition => some condition
  | .elseIf condition _ => some condition
  | .otherwise condition => some condition
  | _ => Option.none

def branchIndex? : Branch → Option Nat
  | .ifBranch _ => some 0
  | .elseIf _ branch => some branch
  | _ => Option.none

/-- Did an expression hold? -/
def matched (branch : Branch) : Bool := branch.branchIndex?.isSome

end Branch

/-- The value of a conditional field and the branch it comes from. -/
structure Choice where
  value : Text
  branch : Branch
  deriving DecidableEq, Repr

/-- Text between quotes of one kind, white space around it aside. -/
def unquoted? (text : Text) : Option Text :=
  match Text.strip text with
  | first :: rest =>
    if (first = '\x27' ∨ first = '"') ∧ rest.getLast? = some first then some rest.dropLast else none
  | [] => none

/-- The value that a branch stands for: quoted text is a literal, a field name stands for the field, and
anything else for itself. -/
def branchValue? (record : Record) (value : Text) : Option Text :=
  match unquoted? value with
  | some literal => some literal
  | none => if record.has value then record.text? value else some value

/-- Evaluates the text of an expression, white space around it aside. -/
def evaluate (record : Record) (expression : Text) : Except Expression.Fault Bool :=
  (Expression.parse (Text.strip expression)).map (Node.holds record)

/-- An expression that was tried, and whether it held. -/
structure Attempt where
  expression : Text
  held : Bool
  deriving DecidableEq, Repr

/-- The line that the log has for an attempt. -/
def Attempt.line (attempt : Attempt) : Text :=
  attempt.expression ++ ": " ++ (if attempt.held then "TRUE" else "FALSE")

/-- What trying expressions came to, with the attempts made on the way. -/
structure Trial (α : Type) where
  attempts : List Attempt
  outcome : Except Expression.Fault α

/-- Puts attempts in front of those of a trial. -/
def Trial.after (attempts : List Attempt) (trial : Trial α) : Trial α :=
  { trial with attempts := attempts ++ trial.attempts }

/-- The first branch, counted from `index` on, whose expression holds. -/
def firstHolding (record : Record) (index : Nat) : List (Text × Text) → Trial (Option (Nat × Text))
  | [] => ⟨[], .ok none⟩
  | (expression, value) :: rest =>
    match evaluate record expression with
    | .error fault => ⟨[], .error fault⟩
    | .ok true => ⟨[⟨expression, true⟩], .ok (some (index, value))⟩
    | .ok false => (firstHolding record (index + 1) rest).after [⟨expression, false⟩]

/-- The branch of one condition, the `index`-th of its list. -/
def chooseIn (record : Record) (index : Nat) (condition : Condition) : Trial (Option Choice) :=
  let trial := firstHolding record 0 condition.branches
  { attempts := trial.attempts
    outcome := trial.outcome.map fun
      | some (branch, value) =>
        some ⟨(branchValue? record value).getD [],
          if branch = 0 then .ifBranch index else .elseIf index branch⟩
      | none =>
        condition.otherwise?.map fun value =>
          ⟨(branchValue? record value).getD [], .otherwise index⟩ }

/-- The branch of the first condition, counted from `index` on, that has one. -/
def chooseFrom (record : Record) (index : Nat) : List Condition → Trial (Option Choice)
  | [] => ⟨[], .ok none⟩
  | condition :: rest =>
    let trial := chooseIn record index condition
    match trial.outcome with
    | .ok none => (chooseFrom record (index + 1) rest).after trial.attempts
    | _ => trial

/-- The choice when no condition has a branch. -/
def fallback (defaultValue : Option Text) : Choice :=
  match defaultValue with
  | some value => ⟨value, .fallback⟩
  | none => ⟨[], .none⟩

/-- Chooses the value of a conditional field, and tells the attempts made. -/
def chooseTraced (conditions : List Condition) (record : Record) (defaultValue : Option Text) :
    Trial Choice :=
  let trial := chooseFrom record 0 conditions
  { attempts := trial.attempts
    outcome := trial.outcome.map fun choice => choice.getD (fallback defaultValue) }

/-- Chooses the value of a conditional field. -/
def choose (conditions : List Condition) (record : Record) (defaultValue : Option Text) :
    Except Expression.Fault Choice :=
  (chooseTraced conditions record defaultValue).outcome

/-! ## Keeping a log -/

/-- Evaluates expressions and chooses branches, and keeps a log of what it tries when it is asked to. -/
structure Evaluator where
  debug : Bool
  log : List Text
  deriving DecidableEq, Repr

namespace Evaluator

/-- The evaluator after some attempts. -/
def note (evaluator : Evaluator) (attempts : List Attempt) : Evaluator :=
  if evaluator.debug then { evaluator with log := evaluator.log ++ attempts.map Attempt.line }
  else evaluator

/-- Evaluates an expression; a malformed one is not logged. -/
def evaluate (evaluator : Evaluator) (record : Record) (expression : Text) :
    Except Expression.Fault Bool × Evaluator :=
  match Layout.evaluate record expression with
  | .ok held => (.ok held, evaluator.note [⟨expression, held⟩])
  | .error fault => (.error fault, evaluator)

/-- Chooses the value of a conditional field. -/
def resolve (evaluator : Evaluator) (conditions : List Condition) (record : Record)
    (defaultValue : Option Text) : Except Expression.Fault Choice × Evaluator :=
  let trial := chooseTraced conditions record defaultValue
  (trial.outcome, evaluator.note trial.attempts)

end Evaluator
end FixedExtract.Layout
