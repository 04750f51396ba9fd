import FixedExtract.Value.Basic
/-!
# Failures

What callers of the library are told when something cannot be done: the class of the failure, a message,
a code for machines, and details. A class has a code of its own, which a failure may replace.
-/

namespace FixedExtract

inductive FailureClass where
  | general
  | configShape
  | configCompile
  | configLoad
  | expressionSyntax
  | fieldTransformation
  | fieldValidation
  | ruleDefinition
  deriving DecidableEq, Repr

namespace FailureClass

def name : FailureClass → Text
  | .general => "ExtractPilotError"
  | .configShape => "ConfigShapeError"
  | .configCompile => "ConfigCompileError"
  | .configLoad => "ConfigLoadError"
  | .expressionSyntax => "ExpressionSyntaxError"
  | .fieldTransformation => "FieldTransformationError"
  | .fieldValidation => "FieldValidationError"
  | .ruleDefinition => "RuleDefinitionError"

def all : List FailureClass :=
  [.general, .configShape, .configCompile, .configLoad, .expressionSyntax, .fieldTransformation,
   .fieldValidation, .ruleDefinition]

def ofName? (name : Text) : Option FailureClass := all.find? fun cls => cls.name == name

def code : FailureClass → Text
  | .general => "EP_INTERNAL_ERROR"
  | .configShape => "EP_CONFIG_SHAPE_ERROR"
  | .configCompile => "EP_CONFIG_COMPILE_ERROR"
  | .configLoad => "EP_CONFIG_LOAD_ERROR"
  | .expressionSyntax => "EP_EXPRESSION_SYNTAX"
  | .fieldTransformation => "EP_FIELD_TRANSFORMATION"
  | .fieldValidation => "EP_FIELD_VALIDATION"
  | .ruleDefinition => "EP_RULE_DEFINITION"

end FailureClass

structure Failure where
  cls : FailureClass
  message : Text
  code : Text
  details : Entries
  recordId : Option Text
  deriving Repr

namespace Failure

/-- A failure with the code of its class. -/
def make (cls : FailureClass) (message : Text) (details : Entries) : Failure :=
  ⟨cls, message, cls.code, details, none⟩

/-- The identifier of the record, unless it is empty. -/
def record? (failure : Failure) : Option Text := failure.recordId.filter fun id => !id.isEmpty

/-- The failure on one line. -/
def text (failure : Failure) : Text :=
  '[' :: failure.code ++ "] " ++ failure.message ++
    (match failure.record? with
     | some id => " (record: " ++ id ++ ")"
     | none => [])

/-- The failure as a map; empty details and an empty record identifier are left out. -/
def report (failure : Failure) : Value :=
  let entry := fun (key : Text) (value : Value) => (Value.text key, value)
  .map ([entry "code" failure.code, entry "message" failure.message] ++
    (if failure.details.isEmpty then [] else [entry "details" (.map failure.details)]) ++
    (failure.record?.map fun id => entry "record_id" id).toList)

/-- The errors that the details list; none when they are no list. -/
def errors? (failure : Failure) : Option (List Value) :=
  match Entries.get? "errors" failure.details with
  | none => some []
  | some (.list items) => some items
  | some (.map entries) => some (entries.map Prod.fst)
  | some (.text t) => some (t.map fun c => .text [c])
  | some _ => none

end Failure
end FixedExtract
