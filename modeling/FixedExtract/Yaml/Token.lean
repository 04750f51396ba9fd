import FixedExtract.Text.Basic
/-!
# Tokens

The marks and scalars that a YAML text consists of. Where nesting is shown by indentation, tokens stand
for where it begins and ends.
-/

namespace FixedExtract.Yaml

/-- A line that says something about how a document is to be read. -/
inductive Directive where
  | version (major minor : Nat)
  | tagHandle (handle expansion : Text)
  | other
  deriving DecidableEq, Repr

inductive Token where
  | streamEnd
  | directive (directive : Directive)
  | documentStart
  | documentEnd
  | blockSequenceStart
  | blockMappingStart
  | blockEnd
  | flowSequenceStart
  | flowSequenceEnd
  | flowMappingStart
  | flowMappingEnd
  | flowEntry
  | blockEntry
  | key
  | value
  | alias (name : Text)
  | anchor (name : Text)
  | tag (handle : Option Text) (suffix : Text)
  | scalar (text : Text) (plain : Bool)
  deriving DecidableEq, Repr

end FixedExtract.Yaml
