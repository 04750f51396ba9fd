import FixedExtract.Text.Case
import FixedExtract.Value.Display
/-!
# Rules

A rule states what the values of one field have to be like. Which of its settings count depends on its kind.
-/

namespace FixedExtract

/-! ## Kinds of rules

The closed sets of words that a rule is described with. A kind has a stored name and a short one, and either
is read with surrounding white space dropped and in any case.
-/

/-- What a rule asks of a value. -/
inductive RuleKind where
  | required
  | length
  | dataType
  | pattern
  | email
  | phone
  | socialSecurity
  | accountNumber
  | numeric
  | range
  | dateFormat
  | referentialIntegrity
  | uniqueField
  | customQuery
  | businessRule
  deriving DecidableEq, Repr

namespace RuleKind

def all : List RuleKind :=
  [.required, .length, .dataType, .pattern, .email, .phone, .socialSecurity, .accountNumber, .numeric,
   .range, .dateFormat, .referentialIntegrity, .uniqueField, .customQuery, .businessRule]

/-- The stored name. -/
def name : RuleKind → Text
  | .required => "REQUIRED_FIELD_VALIDATION"
  | .length => "LENGTH_VALIDATION"
  | .dataType => "DATA_TYPE_VALIDATION"
  | .pattern => "PATTERN_VALIDATION"
  | .email => "EMAIL_VALIDATION"
  | .phone => "PHONE_VALIDATION"
  | .socialSecurity => "SSN_VALIDATION"
  | .accountNumber => "ACCOUNT_NUMBER_VALIDATION"
  | .numeric => "NUMERIC_VALIDATION"
  | .range => "RANGE_VALIDATION"
  | .dateFormat => "DATE_FORMAT_VALIDATION"
  | .referentialIntegrity => "REFERENTIAL_INTEGRITY"
  | .uniqueField => "UNIQUE_FIELD_VALIDATION"
  | .customQuery => "CUSTOM_SQL_VALIDATION"
  | .businessRule => "BUSINESS_RULE"

/-- The short name. -/
def shortName : RuleKind → Text
  | .required => "REQUIRED"
  | .length => "LENGTH"
  | .dataType => "DATA_TYPE"
  | .pattern => "PATTERN"
  | .email => "EMAIL"
  | .phone => "PHONE"
  | .socialSecurity => "SSN"
  | .accountNumber => "ACCOUNT_NUMBER"
  | .numeric => "NUMERIC"
  | .range => "RANGE"
  | .dateFormat => "DATE_FORMAT"
  | .referentialIntegrity => "REFERENTIAL_INTEGRITY"
  | .uniqueField => "UNIQUE_FIELD"
  | .customQuery => "CUSTOM_SQL"
  | .businessRule => "BUSINESS_RULE"

/-- The kind that an upper-case word names. -/
def ofName? (word : Text) : Option RuleKind :=
  all.find? fun kind => kind.name == word || kind.shortName == word

def ofText? (text : Text) : Option RuleKind := ofName? (Text.upper (Text.strip text))

/-- Does a rule of the kind match values against a regular expression of its own? -/
def hasPattern : RuleKind → Bool
  | .pattern => true
  | .email => true
  | .phone => true
  | .socialSecurity => true
  | .accountNumber => true
  | _ => false

end RuleKind

/-- How much a failed rule matters. -/
inductive Severity where
  | info
  | warning
  | error
  | critical
  deriving DecidableEq, Repr

namespace Severity

def all : List Severity := [.info, .warning, .error, .critical]

def name : Severity → Text
  | .info => "INFO"
  | .warning => "WARNING"
  | .error => "ERROR"
  | .critical => "CRITICAL"

/-- The severity that an upper-case word names. -/
def ofName? (word : Text) : Option Severity := all.find? fun severity => severity.name == word

def ofText? (text : Text) : Option Severity := ofName? (Text.upper (Text.strip text))

end Severity

/-! ### Reading words -/

/-- A word that names no kind or no severity. -/
inductive UnknownRuleWord where
  | kind (written : Value)
  | severity (word : Text)
  deriving Repr

def UnknownRuleWord.message : UnknownRuleWord → Text
  | .kind written => "Unknown rule type: " ++ written.form
  | .severity word => Text.quoted word ++ " is not a valid Severity"

/-- The kind that a value names in its written form. -/
def readRuleKind (written : Value) : Except UnknownRuleWord RuleKind :=
  match RuleKind.ofText? written.display with
  | some kind => .ok kind
  | none => .error (.kind written)

/-- The severity that a text names; no text means an error. -/
def readSeverity : Option Text → Except UnknownRuleWord Severity
  | none => .ok .error
  | some text =>
    match Severity.ofText? text with
    | some severity => .ok severity
    | none => .error (.severity (Text.upper (Text.strip text)))

/-! ## Single rules and rules of fields -/

structure Rule where
  id : Text
  kind : RuleKind
  field : Option Text
  order : Int
  severity : Severity
  enabled : Bool
  dataType : Option Text
  minLength : Option Int
  maxLength : Option Int
  pattern : Option Text
  range : Option Text
  message : Option Text
  required : Bool
  precision : Option Int
  scale : Option Int
  referenceTable : Option Text
  referenceColumn : Option Text
  deriving DecidableEq, Repr

namespace Rule

/-- A rule whose failure ends the checks of its field. -/
def isCritical (rule : Rule) : Bool := rule.severity = .critical

/-- The pattern of the rule, unless it is empty. -/
def pattern? (rule : Rule) : Option Text := rule.pattern.filter fun text => !text.isEmpty

/-- Does the first rule come no later than the second? -/
def inOrder (a b : Rule) : Bool := a.order ≤ b.order

/-- The rules in execution order; rules of the same order stay as they are. -/
def sort (rules : List Rule) : List Rule := rules.mergeSort inOrder

/-- Adds a rule at the end of the rules of its field, which comes last when it is new. -/
def addTo (field : Text) (rule : Rule) : List (Text × List Rule) → List (Text × List Rule)
  | [] => [(field, [rule])]
  | (name, rules) :: rest =>
    if name = field then (name, rules ++ [rule]) :: rest else (name, rules) :: addTo field rule rest

/-- The rules of every field in execution order. Fields come in the order in which rules name them first, and
rules that name no field are left out. -/
def byField (rules : List Rule) : List (Text × List Rule) :=
  let groups := rules.foldl
    (fun groups rule =>
      match rule.field.filter fun name => !name.isEmpty with
      | some field => rule.addTo field groups
      | none => groups) []
  groups.map fun (name, rules) => (name, sort rules)

end Rule
end FixedExtract
