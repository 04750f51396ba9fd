import FixedExtract.Compiled.Compile
import FixedExtract.Compiled.Load
/-!
# Failures of compiling and loading

What callers are told when definitions cannot be compiled or compiled text cannot be read.
-/

namespace FixedExtract.Compiled

/-- An entry of the details of a failure. -/
def detail (key : Text) (value : Value) : Value × Value := (.text key, value)

def textValues (texts : List Text) : Value := .list (texts.map .text)

/-- The failure for definitions that cannot be compiled together, unless one of them cannot be loaded for
another reason than its shape. -/
def Fault.failure? : Fault → Except Definition.LoadFault Failure
  | .noDefinitions => .ok (.make .configCompile "At least one mapping definition is required" [])
  | .shapes reports =>
    let messages := Fault.shapeMessages reports
    .ok (.make .configShape
      (Text.ofNat messages.length ++ " error(s) across mapping definitions")
      [detail "errors" (textValues messages)])
  | .severalJobs jobs =>
    .ok (.make .configCompile
      ("Definitions belong to different jobs: " ++ Text.join ", " jobs)
      [detail "jobs" (textValues jobs)])
  | .repeatedType transactionType =>
    .ok (.make .configCompile ("Duplicate transaction type: " ++ transactionType)
      [detail "transaction_type" (.text transactionType)])
  | .load fault => .error fault

/-- Why there is no failure to report for a text: a scalar has no value, or a key that would have to be named
cannot be written. -/
inductive Unreported where
  | scalar (fault : Yaml.Fault)
  | key
  deriving DecidableEq, Repr

/-- The failure for compiled text that cannot be read. -/
def TextFault.failure? : TextFault → Except Unreported Failure
  | .yaml .malformed => .ok (.make .configLoad "Invalid compiled configuration: " [])
  | .yaml fault => .error (.scalar fault)
  | .noFields index =>
    .ok (.make .configLoad ("Document " ++ Text.ofNat (index + 1) ++ " has no fields mapping")
      [detail "document" (.int index)])
  | .fieldNotMap index key =>
    if key.isWritable then
      .ok (.make .configLoad
        ("Field '" ++ key.display ++ "' in document " ++ Text.ofNat (index + 1) ++
          " is not a mapping")
        [detail "document" (.int index), detail "field" key])
    else .error .key
  | .types index found =>
    .ok (.make .configLoad
      ("Document " ++ Text.ofNat (index + 1) ++ " does not match the mapping schema")
      [detail "document" (.int index),
       detail "errors" (textValues (found.map fun fault => fault.problem.message))])

/-- The failure for a transaction type that has no document. -/
def NoDocument.failure (fault : NoDocument) : Failure :=
  .make .configLoad
    ("No configuration for transaction type " ++ fault.wanted ++ " and no default")
    [detail "transaction_type" (.text fault.wanted),
     detail "available" (textValues fault.available)]

end FixedExtract.Compiled
