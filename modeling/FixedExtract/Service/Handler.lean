import FixedExtract.Compiled.Failure
import FixedExtract.Json.Writer
import FixedExtract.Rule.Loading
import FixedExtract.Service.Response
import FixedExtract.Service.Target
import FixedExtract.Settings
/-!
# Handling requests

Every path takes one method. A request is read, the library does what it asks for, and failures of the library
become responses. What the library cannot answer for at all is handed on as a breakdown.
-/

namespace FixedExtract.Service

open Definition (LoadFault)

/-- An error that has no response. -/
inductive Breakdown where
  | rendering (stop : Layout.Stop)
  | load (fault : LoadFault)
  | row (fault : Rule.RowFault)
  | pattern (refusal : Regex.Refusal)
  | target (fault : TargetFault)
  | notStrict
  | bodiless
  deriving Repr

abbrev Handling := Except Breakdown Response

/-! ## Definitions -/

/-- The response to a definition that cannot be loaded. -/
def loadFailure : LoadFault → Handling
  | .shape report => .ok (.failure report.failure)
  | fault => .error (.load fault)

def validateDefinition (settings : Settings) (definition : Entries) : Handling :=
  .ok (.shape (Definition.checkShape settings.maxRecordLength (.entries definition)))

def compileDefinition (settings : Settings) (definition : Entries) : Handling :=
  match Compiled.compile settings.maxRecordLength (.entries definition) with
  | .ok content => .ok (.compiled content 1)
  | .error fault => loadFailure fault

def compileDefinitions (settings : Settings) (definitions : List Entries) : Handling :=
  match Compiled.compileAll settings.maxRecordLength (definitions.map .entries) with
  | .ok content => .ok (.compiled content definitions.length)
  | .error fault =>
    match fault.failure? with
    | .ok failure => .ok (.failure failure)
    | .error fault => loadFailure fault

/-- The record that field values make. -/
def recordOf (values : FieldValues) : Record :=
  values.map fun (name, value) => (name, FieldResult.orNull value)

def previewDefinition (settings : Settings) (request : PreviewRequest) : Handling :=
  match Definition.load settings.maxRecordLength (.entries request.definition) with
  | .error fault => loadFailure fault
  | .ok config =>
    match Layout.renderLines config (request.records.map recordOf) with
    | .ok lines => .ok (.preview config lines)
    | .error stop => .error (.rendering stop)

/-! ## Records -/

/-- Does something with the rules of rows. -/
def withRules (rows : List Entries) (handle : List Rule → Handling) : Handling :=
  match Rule.loadAll (rows.map fun row => .value (.map row)) with
  | .ok rules => handle rules
  | .error fault =>
    match fault.failure? with
    | .ok failure => .ok (.failure failure)
    | .error _ => .error (.row fault)

def validateRecord (settings : Settings) (request : RecordRequest) : Handling :=
  withRules request.rules fun rules =>
    match PatternCache.empty.prepare rules with
    | (some refusal, _) => .error (.pattern refusal)
    | (none, cache) =>
      let how := ⟨request.threshold.getD settings.errorThreshold, none, 0⟩
      .ok (.summary (cache.checkRecord none how (Rule.byField rules) request.record).1)

def validateBatch (settings : Settings) (request : BatchRequest) : Handling :=
  withRules request.rules fun rules =>
    let how := ⟨request.threshold.getD settings.errorThreshold, request.batchId, 0⟩
    match (PatternCache.empty.checkRecords none how (Rule.byField rules) request.records).1 with
    | .ok s => .ok (.summary s)
    | .error refusal => .error (.pattern refusal)

/-! ## Routes -/

/-- The version of the service. -/
def version : Text := "0.1.0"

def health (settings : Settings) : Response :=
  .ok [entry "healthy" (.bool true), entry "service" (.text "ExtractPilot API"),
    entry "version" (.text version), entry "max_record_length" (.int settings.maxRecordLength)]

inductive Route where
  | health
  | validateDefinition
  | compileDefinition
  | compileDefinitions
  | previewDefinition
  | validateRecord
  | validateBatch
  deriving DecidableEq, Repr

namespace Route

def all : List Route :=
  [.health, .validateDefinition, .compileDefinition, .compileDefinitions, .previewDefinition,
   .validateRecord, .validateBatch]

def path : Route → Text
  | .health => "/health"
  | .validateDefinition => "/configurations/validate"
  | .compileDefinition => "/configurations/compile"
  | .compileDefinitions => "/configurations/compile-many"
  | .previewDefinition => "/configurations/preview"
  | .validateRecord => "/validation/record"
  | .validateBatch => "/validation/batch"

/-- The method that the route takes. -/
def method : Route → Text
  | .health => "GET"
  | _ => "POST"

/-- The route at a path, which may end with one line feed. -/
def at? (path : Text) : Option Route :=
  all.find? fun route => path == route.path || path == route.path ++ ['\n']

/-- The route of a path. Where nothing is, slashes at the end do not count. -/
def ofPath? (path : Text) : Option Route :=
  (at? path).or (at? (path.reverse.dropWhile (· = '/')).reverse)

end Route

/-- Reads a body and handles what is in it. -/
def withBody (read : Value → Definition.Checked α) (body : Text) (handle : α → Handling) : Handling :=
  match readBody read body with
  | .ok request => handle request
  | .error fault => .ok (.badBody fault)

/-- Handles a request on a route with its method. -/
def Route.handle (settings : Settings) (body : Text) : Route → Handling
  | .health => .ok (Service.health settings)
  | .validateDefinition => withBody readMap body (Service.validateDefinition settings)
  | .compileDefinition => withBody readMap body (Service.compileDefinition settings)
  | .compileDefinitions => withBody readDefinitions body (Service.compileDefinitions settings)
  | .previewDefinition => withBody PreviewRequest.read body (Service.previewDefinition settings)
  | .validateRecord => withBody RecordRequest.read body (Service.validateRecord settings)
  | .validateBatch => withBody BatchRequest.read body (Service.validateBatch settings)

/-- The response to a request for a path. -/
def respond (settings : Settings) (method path body : Text) : Handling :=
  match Route.ofPath? path with
  | none => .ok (.refusal 404 "Not Found")
  | some route =>
    if method == route.method then route.handle settings body
    else .ok (.refusal 405 "Method Not Allowed")

/-- Sends a response; its numbers have to be finite. -/
def send (response : Response) : Handling :=
  if Json.isStrict response.body then .ok response else .error .notStrict

/-- Handles a request. A request for the head of a response gets no document. -/
def handle (settings : Settings) (method target body : Text) : Handling :=
  match pathOf target with
  | .error fault => .error (.target fault)
  | .ok path =>
    let method := Text.upper method
    match respond settings method path body with
    | .error breakdown => .error breakdown
    | .ok response => if method == "HEAD".toList then .error .bodiless else send response

end FixedExtract.Service
