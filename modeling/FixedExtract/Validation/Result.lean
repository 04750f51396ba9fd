import FixedExtract.Rule.Basic
/-!
# Results

What checking one value against one rule came to. A result that is valid may carry a warning, and a field that
no rule is checked for has one result without a rule.
-/

namespace FixedExtract

/-- The rule that a result belongs to. -/
structure RuleTag where
  id : Text
  kind : RuleKind
  severity : Severity
  deriving DecidableEq, Repr

def Rule.tag (rule : Rule) : RuleTag := ⟨rule.id, rule.kind, rule.severity⟩

structure FieldResult where
  field : Text
  value : Option Text
  valid : Bool
  rule : Option RuleTag
  error : Option Text
  warning : Option Text
  deriving DecidableEq, Repr

namespace FieldResult

def success (field : Text) (value : Option Text) (rule : Option RuleTag) : FieldResult :=
  ⟨field, value, true, rule, none, none⟩

def failure (field : Text) (value : Option Text) (rule : Option RuleTag) (message : Text) :
    FieldResult :=
  ⟨field, value, false, rule, some message, none⟩

def caution (field : Text) (value : Option Text) (rule : Option RuleTag) (message : Text) :
    FieldResult :=
  ⟨field, value, true, rule, none, some message⟩

def hasWarning (r : FieldResult) : Bool := r.warning.isSome

/-- Does the result count as a warning? A result that is not valid counts as an error alone. -/
def isCaution (r : FieldResult) : Bool := r.valid && r.hasWarning

/-- A text, or null. -/
def orNull : Option Text → Value
  | some text => .text text
  | none => .null

/-- An entry of a report; what is not there is left out. -/
def entry? (key : Text) : Option Text → Entries
  | some text => [(.text key, .text text)]
  | none => []

/-- The result as a map. -/
def report (r : FieldResult) : Value :=
  .map ([(.text "field_name", .text r.field), (.text "field_value", orNull r.value),
      (.text "rule_id", orNull (r.rule.map RuleTag.id)), (.text "valid", .bool r.valid)] ++
    entry? "rule_type" (r.rule.map (RuleKind.name ∘ RuleTag.kind)) ++
    entry? "severity" (r.rule.map (Severity.name ∘ RuleTag.severity)) ++
    entry? "error_message" r.error ++ entry? "warning_message" r.warning)

end FieldResult
end FixedExtract
