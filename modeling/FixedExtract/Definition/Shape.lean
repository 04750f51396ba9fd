import FixedExtract.Definition.Partial
import FixedExtract.Expression.Parser
import FixedExtract.Layout.Kind
/-!
# The shape of definitions

A definition has to be complete before a layout is made of it. Checking one collects everything that is
wrong, so that an author can put it right in one go: first what has the wrong type, then what concerns the
definition as a whole, then its mappings one by one, and last the width of the line.
-/

namespace FixedExtract.Definition

/-! ## What can be wrong -/

/-- Which expression of a mapping; conditions and else-if branches count from one. -/
inductive Place where
  | condition (number : Nat)
  | elseIf (condition branch : Nat)
  deriving DecidableEq, Repr

def Place.text : Place → Text
  | .condition number => "condition " ++ Text.ofNat number
  | .elseIf number branch => "condition " ++ Text.ofNat number ++ " else-if " ++ Text.ofNat branch

/-- What is wrong with a mapping. -/
inductive MappingFault where
  | noName (index : Nat)
  | position (given : Option Int)
  | length (given : Option Int)
  | padSide (word : Text)
  | padChar
  | noKind
  | unknownKind (word : Text)
  | noSourceField
  | noSources
  | blankSource (number : Nat)
  | unknownOperation (word : Text)
  | noConditions
  | noExpression (place : Place)
  | badExpression (place : Place) (fault : Expression.Fault)
  deriving DecidableEq, Repr

namespace MappingFault

def message (label : Text) : MappingFault → Text
  | .noName index => "Target field name is required for mapping #" ++ Text.ofNat (index + 1)
  | .position _ => "Target position must be a positive integer for field: " ++ label
  | .length _ => "Length must be a positive integer for field: " ++ label
  | .padSide word => "Invalid pad side '" ++ word ++ "' for field: " ++ label
  | .padChar => "Pad character must be a single character for field: " ++ label
  | .noKind => "Transformation type is required for field: " ++ label
  | .unknownKind word => "Unknown transformation type '" ++ word ++ "' for field: " ++ label
  | .noSourceField => "Source field required for field: " ++ label
  | .noSources => "Sources required for composite field: " ++ label
  | .blankSource number =>
    "Composite source " ++ Text.ofNat number ++ " is blank for field: " ++ label
  | .unknownOperation word => "Unknown composite transform '" ++ word ++ "' for field: " ++ label
  | .noConditions => "Conditions required for conditional field: " ++ label
  | .noExpression place => "Missing if expression in " ++ place.text ++ " for field: " ++ label
  | .badExpression place fault =>
    "Invalid expression in " ++ place.text ++ " for field " ++ label ++ ": " ++ fault.message

/-- The field of the definition that is missing, when that is what is wrong. -/
def missing? (label : Text) : MappingFault → Option Text
  | .noName index => some ("fieldMappings[" ++ Text.ofNat index ++ "].targetFieldName")
  | .position none => some (label ++ ".targetPosition")
  | .length none => some (label ++ ".length")
  | .noKind => some (label ++ ".transformationType")
  | .noSourceField => some (label ++ ".sourceField")
  | .noSources => some (label ++ ".sources")
  | .noConditions => some (label ++ ".conditions")
  | _ => none

end MappingFault

/-- What is wrong with a definition. -/
inductive ShapeFault where
  | wrongType (fault : TypeFault)
  | noMappings
  | noSourceSystem
  | noJobName
  | duplicatePosition (position : Int)
  | duplicateName (name : Text)
  | keyCollision (key : Text) (names : List Text)
  | mapping (label : Text) (fault : MappingFault)
  | tooLong (total maximum : Int)
  deriving DecidableEq, Repr

namespace ShapeFault

def message : ShapeFault → Text
  | .wrongType fault =>
    "Invalid value for " ++ Text.join ['.'] (fault.path.map Step.text) ++ ": " ++
      fault.problem.message
  | .noMappings => "No field mappings defined"
  | .noSourceSystem => "Source system is required"
  | .noJobName => "Job name is required"
  | .duplicatePosition position => "Duplicate target position: " ++ Text.ofInt position
  | .duplicateName name => "Duplicate target field: " ++ name
  | .keyCollision key names =>
    "Field names " ++ Text.join ", " names ++ " collide on compiled key '" ++ key ++ "'"
  | .mapping label fault => fault.message label
  | .tooLong total maximum =>
    "Total record length " ++ Text.ofInt total ++ " exceeds maximum of " ++ Text.ofInt maximum

/-- The field of the definition that is missing, when that is what is wrong. -/
def missing? : ShapeFault → Option Text
  | .noSourceSystem => some "sourceSystem"
  | .noJobName => some "jobName"
  | .mapping label fault => fault.missing? label
  | _ => none

def duplicatePosition? : ShapeFault → Option Int
  | .duplicatePosition position => some position
  | _ => none

def duplicateName? : ShapeFault → Option Text
  | .duplicateName name => some name
  | _ => none

end ShapeFault

/-- What is worth a word although it is not wrong. -/
inductive ShapeWarning where
  | noValue (label : Text)
  | noElse (label : Text)
  deriving DecidableEq, Repr

def ShapeWarning.message : ShapeWarning → Text
  | .noValue label => "No value specified for constant field: " ++ label
  | .noElse label =>
    "Conditional field " ++ label ++ " has no else expression; " ++
      "unmatched records render an empty value"

/-- Everything that was found. -/
structure ShapeReport where
  errors : List ShapeFault
  warnings : List ShapeWarning
  deriving DecidableEq, Repr

namespace ShapeReport

def valid (report : ShapeReport) : Bool := report.errors.isEmpty

def duplicatePositions (report : ShapeReport) : List Int :=
  report.errors.filterMap ShapeFault.duplicatePosition?

def duplicateNames (report : ShapeReport) : List Text :=
  report.errors.filterMap ShapeFault.duplicateName?

def missing (report : ShapeReport) : List Text := report.errors.filterMap ShapeFault.missing?

def append (a b : ShapeReport) : ShapeReport := ⟨a.errors ++ b.errors, a.warnings ++ b.warnings⟩

end ShapeReport

/-! ## The definition as a whole -/

/-- The key of a field in a compiled document. -/
def fieldKey (name : Text) : Text := Text.replaceChar '_' '-' (Text.lower name)

/-- The values that occur more than once, in the order they first occur. -/
def repeated [BEq α] (values : List α) : List α :=
  values.eraseDups.filter fun value => 1 < values.count value

/-- The names of the mappings that have one. -/
def targetNames (mappings : List MappingDraft) : List Text :=
  mappings.filterMap fun m => m.targetFieldName.filter fun name => !Text.isBlank name

/-- The different names that share a key, of names that stand beside their keys. -/
def namesOfKey (keyed : List (Text × Text)) (key : Text) : List Text :=
  ((keyed.filter fun entry => entry.1 == key).map Prod.snd).eraseDups

/-- The keys that different names share. -/
def keyCollisions (names : List Text) : List ShapeFault :=
  let keyed := names.map fun name => (fieldKey name, name)
  (keyed.map Prod.fst).eraseDups.filterMap fun key =>
    let shared := namesOfKey keyed key
    if 1 < shared.length then some (.keyCollision key shared) else none

def checkWhole (draft : ConfigDraft) : List ShapeFault :=
  (if draft.mappings.isEmpty then [.noMappings] else []) ++
  (if Text.isBlank? draft.sourceSystem then [.noSourceSystem] else []) ++
  (if Text.isBlank? draft.jobName then [.noJobName] else []) ++
  (repeated (draft.mappings.filterMap MappingDraft.targetPosition)).map .duplicatePosition ++
  (repeated (targetNames draft.mappings)).map .duplicateName ++
  keyCollisions (targetNames draft.mappings)

/-- The width of the line, of the lengths that are positive. -/
def totalLength (mappings : List MappingDraft) : Int :=
  ((mappings.filterMap MappingDraft.length).filter (0 < ·)).foldr (· + ·) 0

def checkLength (maximum : Int) (draft : ConfigDraft) : List ShapeFault :=
  let total := totalLength draft.mappings
  if maximum < total then [.tooLong total maximum] else []

/-! ## The mappings -/

/-- What a mapping is called in messages: its name, or its number in the definition. -/
def mappingLabel (index : Nat) (m : MappingDraft) : Text :=
  match m.targetFieldName.filter fun name => !Text.isBlank name with
  | some name => name
  | none => '#' :: Text.ofNat (index + 1)

def isPositive : Option Int → Bool
  | some n => 0 < n
  | none => false

/-- Checks one expression. -/
def checkExpression (place : Place) (expression : Option Text) : List MappingFault :=
  match expression.filter fun text => !Text.isBlank text with
  | none => [.noExpression place]
  | some text =>
    match Expression.parse (Text.strip text) with
    | .ok _ => []
    | .error fault => [.badExpression place fault]

/-- Checks the expressions of a condition, which is the `number`-th. -/
def checkCondition (number : Nat) (condition : ConditionDraft) : List MappingFault :=
  checkExpression (.condition number) condition.ifExpr ++
    (condition.elseIfs.zipIdx 1).flatMap fun (branch, i) =>
      checkExpression (.elseIf number i) branch.ifExpr

/-- Does the condition have an else that is not blank? -/
def hasElse (condition : ConditionDraft) : Bool := !Text.isBlank? condition.elseExpr

/-- Checks what the transformation of a mapping needs. -/
def checkTransformation (m : MappingDraft) : Layout.TransformationKind → List MappingFault
  | .source => if Text.isBlank? m.sourceField then [.noSourceField] else []
  | .constant => []
  | .composite =>
    (if m.sources.isEmpty then [.noSources] else []) ++
    ((m.sourceNames.zipIdx 1).filterMap fun (source, i) =>
      if Text.isBlank source then some (.blankSource i) else none) ++
    (match m.transform.map fun word => (word, Layout.readOperation (some word)) with
     | some (word, .error _) => [.unknownOperation word]
     | _ => [])
  | .conditional =>
    if m.conditions.isEmpty then [.noConditions]
    else (m.conditions.zipIdx 1).flatMap fun (condition, i) => checkCondition i condition

/-- What is worth a word about the transformation of a mapping. -/
def transformationWarnings (label : Text) (m : MappingDraft) :
    Layout.TransformationKind → List ShapeWarning
  | .constant => if Text.isBlank? m.value && m.defaultValue.isNone then [.noValue label] else []
  | .conditional =>
    if !m.conditions.isEmpty && !m.conditions.any hasElse && m.defaultValue.isNone then
      [.noElse label]
    else []
  | _ => []

/-- Checks everything but the transformation of the `index`-th mapping. -/
def checkPlacement (index : Nat) (m : MappingDraft) : List MappingFault :=
  (if Text.isBlank? m.targetFieldName then [.noName index] else []) ++
  (if isPositive m.targetPosition then [] else [.position m.targetPosition]) ++
  (if isPositive m.length then [] else [.length m.length]) ++
  (match m.pad.map fun word => (word, Layout.readPadSide (some word)) with
   | some (word, .error _) => [.padSide word]
   | _ => []) ++
  (match m.padChar with
   | some text => if text.length = 1 then [] else [.padChar]
   | none => [])

/-- The kind of transformation that a mapping names. -/
def mappingKind (m : MappingDraft) : Except MappingFault Layout.TransformationKind :=
  match m.transformationType.filter fun word => !Text.isBlank word with
  | none => .error .noKind
  | some word =>
    match Layout.TransformationKind.ofText? word with
    | some kind => .ok kind
    | none => .error (.unknownKind word)

/-- Checks the `index`-th mapping. -/
def checkMapping (index : Nat) (m : MappingDraft) : ShapeReport :=
  let label := mappingLabel index m
  let placement := checkPlacement index m
  match mappingKind m with
  | .error fault => ⟨(placement ++ [fault]).map (.mapping label), []⟩
  | .ok kind =>
    ⟨(placement ++ checkTransformation m kind).map (.mapping label),
      transformationWarnings label m kind⟩

/-! ## Checking a definition -/

/-- A definition as it is handed in: as a map, or already read. -/
inductive Submission where
  | entries (entries : Entries)
  | draft (draft : ConfigDraft)
  deriving Repr

/-- What could be read of a definition: the draft, which of its mappings were read without faults, and the
faults. -/
structure Reading where
  draft : ConfigDraft
  clean : List Bool
  faults : List TypeFault
  deriving Repr

/-- The mappings of a definition as they are given: null in camel case gives way to snake case. -/
def givenMappings (entries : Entries) : Value :=
  match entries.getD ConfigDraft.mappingsField.camel with
  | .null => entries.getD ConfigDraft.mappingsField.snake
  | v => v

/-- The list of mappings, of which nothing is left when it is no list. -/
def mappingList (v : Value) : List Value × List TypeFault :=
  match v.opened with
  | .null => ([], [])
  | .list items => (items, [])
  | _ => ([], [⟨[.key ConfigDraft.mappingsField.camel], .notList⟩])

/-- Reads what can be read of a definition. -/
def readSubmission : Submission → Reading
  | .draft draft => ⟨draft, draft.mappings.map fun _ => true, []⟩
  | .entries entries =>
    let top := ConfigDraft.readPartially
      (.map ((entries.without ConfigDraft.mappingsField.camel).without ConfigDraft.mappingsField.snake))
    let (items, listFaults) := mappingList (givenMappings entries)
    let mappings := items.map MappingDraft.readPartially
    let mappingFaults := mappings.zipIdx.flatMap fun (reading, i) =>
      reading.faults.map fun fault =>
        (fault.under (.index i)).under (.key ConfigDraft.mappingsField.camel)
    { draft := { top.draft with mappings := mappings.map Partial.draft }
      clean := mappings.map Partial.isClean
      faults := top.faults ++ listFaults ++ mappingFaults }

/-- Checks the mappings that were read without faults. -/
def checkMappings (reading : Reading) : ShapeReport :=
  ((reading.draft.mappings.zip reading.clean).zipIdx.map fun ((m, clean), i) =>
    if clean then checkMapping i m else ⟨[], []⟩).foldl ShapeReport.append ⟨[], []⟩

/-- The longest line that is allowed unless something else is said. -/
def defaultMaxLength : Int := 32000

/-- Checks a definition whose lines may have at most `maximum` characters. -/
def checkShape (maximum : Int) (submission : Submission) : ShapeReport :=
  let reading := readSubmission submission
  let mappings := checkMappings reading
  { errors := reading.faults.map .wrongType ++ checkWhole reading.draft ++ mappings.errors ++
      checkLength maximum reading.draft
    warnings := mappings.warnings }

end FixedExtract.Definition
