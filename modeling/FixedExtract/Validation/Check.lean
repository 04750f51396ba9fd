import FixedExtract.Calendar.Pattern
import FixedExtract.Rule.Format
import FixedExtract.Text.Integer
import FixedExtract.Validation.Cache
import FixedExtract.Validation.Result
/-!
# Checking a value against a rule

Checking comes to a verdict. Only the check whether a value is there looks at blank values; every other check
of the contents lets them pass. A rule that cannot be applied to a value gives a failed result that says why.
-/

namespace FixedExtract

/-- Looks a value up for a field and a rule: a result, or why there is none. -/
abbrev ReferenceLookup := Text → Text → Rule → Except Text FieldResult

/-- Why a rule cannot be applied. -/
inductive Trouble where
  | pattern (refusal : Regex.Refusal)
  | crossedGroup
  | range (text : Text)
  | repeatedDateField
  | longInteger (digits : Nat)
  | lookup (message : Text)
  deriving DecidableEq, Repr

def Trouble.message : Trouble → Text
  | .pattern refusal => refusal.message
  | .crossedGroup =>
    "The span of capturing group is wrong, please report a bug for the re module."
  | .range text => ValueRange.faultMessage text
  | .repeatedDateField => "redefinition of group name"
  | .longInteger digits => (Text.IntegerFault.tooLong digits).message
  | .lookup message => message

/-- What a check comes to. The message of a failure is the usual one, and the rule may have its own. -/
inductive Verdict where
  | pass
  | fail (message : Text)
  | badPattern
  | warn (message : Text)
  | looked (result : FieldResult)
  deriving DecidableEq, Repr

namespace Verdict

/-- The verdict of a test. -/
def ofTest (holds : Bool) (message : Text) : Verdict := if holds then .pass else .fail message

/-- The message of a failed rule: its own, unless that is blank. -/
def failureMessage (rule : Rule) (usual : Text) : Text :=
  match rule.message with
  | some own => if Text.isBlank own then usual else own
  | none => usual

/-- The result of a verdict. -/
def result (rule : Rule) (field : Text) (value : Option Text) : Verdict → FieldResult
  | .pass => .success field value rule.tag
  | .fail message => .failure field value rule.tag (failureMessage rule message)
  | .badPattern => .failure field value rule.tag "Invalid validation pattern configured"
  | .warn message => .caution field value rule.tag message
  | .looked r => r

end Verdict

namespace Check

/-- The range of the integers of 32 bits, and of those of 64 bits. -/
def intBounds : Int × Int := (-2147483648, 2147483647)
def longBounds : Int × Int := (-9223372036854775808, 9223372036854775807)

def defaultDatePattern : Text := "yyyy-MM-dd"
def defaultMomentPattern : Text := "yyyy-MM-dd HH:mm:ss"

/-- Is a text an integer within bounds? -/
def integer (bounds : Int × Int) (text : Text) : Except Trouble Bool :=
  if !Format.isInteger text then .ok false
  else
    match Text.readInteger 10 text with
    | .ok n => .ok (bounds.1 ≤ n && n ≤ bounds.2)
    | .error (.tooLong digits) => .error (.longInteger digits)
    | .error (.invalid ..) => .ok false

/-- Is a text a date of a pattern? -/
def date (pattern text : Text) : Except Trouble Bool :=
  match DatePattern.isDate? pattern text with
  | some holds => .ok holds
  | none => .error .repeatedDateField

/-- The names of the data types. -/
inductive DataType where
  | integer
  | long
  | decimal
  | date
  | moment
  | boolean
  | text
  deriving DecidableEq, Repr

/-- The data type that an upper-case name stands for. -/
def DataType.ofName? (name : Text) : Option DataType :=
  if ["INTEGER".toList, "INT".toList].elem name then some .integer
  else if ["LONG".toList, "BIGINT".toList].elem name then some .long
  else if ["DECIMAL".toList, "NUMBER".toList, "NUMERIC".toList, "DOUBLE".toList,
      "FLOAT".toList].elem name then some .decimal
  else if name == "DATE" then some .date
  else if ["DATETIME".toList, "TIMESTAMP".toList].elem name then some .moment
  else if name == "BOOLEAN" then some .boolean
  else if ["STRING".toList, "VARCHAR".toList, "CHAR".toList, "TEXT".toList].elem name then some .text
  else none

/-- Is a text of a data type? -/
def isOfType (rule : Rule) (text : Text) : DataType → Except Trouble Bool
  | .integer => integer intBounds text
  | .long => integer longBounds text
  | .decimal => .ok ((Decimal.read? text).any (Format.fitsColumn rule.precision rule.scale))
  | .date => date (rule.pattern?.getD defaultDatePattern) text
  | .moment => date (rule.pattern?.getD defaultMomentPattern) text
  | .boolean => .ok (Format.isBoolean text)
  | .text => .ok true

/-! ## The checks -/

/-- A value that a rule requires must not be blank. -/
def required (rule : Rule) (field : Text) (value : Option Text) : Verdict :=
  .ofTest (!(rule.required && Text.isBlank? value)) (field ++ " is required")

/-- The length of a value must be within the bounds of the rule. -/
def length (rule : Rule) (field value : Text) : Verdict :=
  let actual := " characters (actual: " ++ Text.ofNat value.length ++ ")"
  match rule.maxLength.filter fun most => most < (value.length : Int) with
  | some most => .fail (field ++ " exceeds maximum length of " ++ Text.ofInt most ++ actual)
  | none =>
    match rule.minLength.filter fun least => (value.length : Int) < least with
    | some least => .fail (field ++ " is below minimum length of " ++ Text.ofInt least ++ actual)
    | none => .pass

/-- A value must be of the data type of the rule. -/
def dataType (rule : Rule) (field value : Text) : Except Trouble Verdict :=
  match rule.dataType.filter fun name => !name.isEmpty with
  | none => .ok .pass
  | some name =>
    match DataType.ofName? (Text.upper (Text.strip name)) with
    | none => .ok (.warn ("Unknown data type for validation: " ++ name))
    | some type =>
      (isOfType rule (Text.strip value) type).map fun holds =>
        .ofTest holds (field ++ " must be a valid " ++ name ++ " (actual: " ++ value ++ ")")

/-- What was found of the pattern of a rule; none for a rule without one. -/
abbrev FoundPattern := Option (Except Regex.Refusal (Option CachedPattern))

/-- A text must match the pattern of the rule, or else have the built-in form. -/
def form (found : FoundPattern) (builtIn : Text → Bool) (text message : Text) :
    Except Trouble Verdict :=
  match found with
  | none => .ok (.ofTest (builtIn text) message)
  | some (.ok (some cached)) =>
    match cached.pattern.find text with
    | .matched => .ok .pass
    | .unmatched => .ok (.fail message)
    | .crossed => .error .crossedGroup
  | some (.ok none) => .ok .badPattern
  | some (.error refusal) => .error (.pattern refusal)

/-- A number must be in the range of the rule, if it has one. -/
def bounds (rule : Rule) (field : Text) (number : Decimal) : Except Trouble Verdict :=
  match rule.range.filter fun text => !Text.isBlank text with
  | none => .ok .pass
  | some text =>
    match ValueRange.read? text with
    | none => .error (.range text)
    | some range =>
      .ok (.ofTest (range.contains number)
        (field ++ " must be between " ++ range.low.text ++ " and " ++ range.high.text))

/-- A value must be a plain numeral in the range of the rule. -/
def numeric (rule : Rule) (field value : Text) : Except Trouble Verdict :=
  match (Decimal.read? (Text.strip value)).filter fun _ => ValueRange.isNumeral (Text.strip value) with
  | some number => bounds rule field number
  | none => .ok (.fail (field ++ " must be a valid number"))

/-- A value must be a number in the range of the rule. -/
def range (rule : Rule) (field value : Text) : Except Trouble Verdict :=
  match Decimal.read? (Text.strip value) with
  | some number => bounds rule field number
  | none => .ok (.fail (field ++ " must be a valid number for range validation"))

/-- A value must be a date of the pattern of the rule. -/
def dateFormat (rule : Rule) (field value : Text) : Except Trouble Verdict :=
  let pattern := (rule.pattern.filter fun text => !Text.isBlank text).getD defaultDatePattern
  (date pattern (Text.strip value)).map fun holds =>
    .ofTest holds (field ++ " must be in format " ++ pattern)

/-- A value must be known to the lookup, if there is one. -/
def reference (lookup : Option ReferenceLookup) (rule : Rule) (field value : Text) :
    Except Trouble Verdict :=
  match lookup with
  | none =>
    .ok (.warn ("Referential integrity check skipped for " ++ field ++
      ": no reference lookup configured"))
  | some find =>
    match find field value rule with
    | .ok r => .ok (.looked r)
    | .error message => .error (.lookup message)

/-- A value must be an account number of a length within the bounds of the rule. -/
def accountNumber (found : FoundPattern) (rule : Rule) (field value : Text) :
    Except Trouble Verdict :=
  match form found Format.isAccountNumber value (field ++ " must contain only letters and numbers") with
  | .ok .pass => .ok (length rule field value)
  | other => other

/-- Checks a value that is not blank. -/
def contents (lookup : Option ReferenceLookup) (found : FoundPattern) (rule : Rule)
    (field value : Text) : Except Trouble Verdict :=
  match rule.kind with
  | .required => .ok .pass
  | .length => .ok (length rule field value)
  | .dataType => dataType rule field value
  | .pattern => form found (fun _ => true) value (field ++ " does not match required pattern")
  | .email =>
    form found Format.isEmail (Text.strip value) (field ++ " must be a valid email address")
  | .phone =>
    form found Format.isPhone (value.filter fun c => !Format.isPhoneSeparator c)
      (field ++ " must be a valid phone number")
  | .socialSecurity =>
    form found Format.isSocialSecurity (Text.strip value)
      (field ++ " must be a valid SSN format (XXX-XX-XXXX)")
  | .accountNumber => accountNumber found rule field value
  | .numeric => numeric rule field value
  | .range => range rule field value
  | .dateFormat => dateFormat rule field value
  | .referentialIntegrity => reference lookup rule field value
  | .uniqueField => .ok .pass
  | .customQuery => .ok .pass
  | .businessRule => .ok .pass

/-- Checks a value of any kind. -/
def verdict (lookup : Option ReferenceLookup) (found : FoundPattern) (rule : Rule) (field : Text)
    (value : Option Text) : Except Trouble Verdict :=
  match rule.kind, value with
  | .businessRule, _ => .ok (.warn ("Unsupported validation rule type: " ++ rule.kind.name))
  | .required, _ => .ok (required rule field value)
  | .length, some text => .ok (length rule field text)
  | _, some text => if Text.isBlank text then .ok .pass else contents lookup found rule field text
  | _, none => .ok .pass

/-- The result of checking a value, given what was found of the pattern of the rule. -/
def result (lookup : Option ReferenceLookup) (found : FoundPattern) (rule : Rule) (field : Text)
    (value : Option Text) : FieldResult :=
  match verdict lookup found rule field value with
  | .ok v => v.result rule field value
  | .error trouble => .failure field value rule.tag ("Validation error: " ++ trouble.message)

end Check

/-! ## Checking with cached patterns -/

/-- Does checking the value need the pattern of the rule? -/
def Rule.needsPattern (rule : Rule) (value : Option Text) : Bool :=
  rule.kind.hasPattern && rule.pattern?.isSome && !Text.isBlank? value &&
    !(rule.kind = .pattern && Text.isBlank? rule.pattern)

/-- Checks a value against a rule, reading the pattern of the rule if it is needed. -/
def PatternCache.check (lookup : Option ReferenceLookup) (cache : PatternCache) (rule : Rule)
    (field : Text) (value : Option Text) : FieldResult × PatternCache :=
  if rule.needsPattern value then
    let (found, more) := cache.fetch rule
    (Check.result lookup (some found) rule field value, more)
  else (Check.result lookup none rule field value, cache)

end FixedExtract
