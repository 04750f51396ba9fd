import FixedExtract.Text.Template
/-!
# Log entries

An entry of the log is an object on a line of its own: its level, where it comes from and its message, and what
else is known about it.
-/

namespace FixedExtract

structure LogEntry where
  level : Int
  logger : Text
  message : Text
  arguments : List Value
  errorCode : Option Text
  path : Option Text
  cause : Option (Text × Text)
  deriving Repr

namespace LogEntry

/-- The name of a level. -/
def levelName (level : Int) : Text :=
  if level = 0 then "NOTSET"
  else if level = 10 then "DEBUG"
  else if level = 20 then "INFO"
  else if level = 30 then "WARNING"
  else if level = 40 then "ERROR"
  else if level = 50 then "CRITICAL"
  else "Level " ++ Text.ofInt level

/-- The kind of a cause, with its message unless that is empty. -/
def causeText : Text × Text → Text
  | (kind, message) => if message.isEmpty then kind else kind ++ ": " ++ message

/-- An entry of the object, when there is something to say. -/
def part? (key : Text) : Option Text → Entries
  | some text => [(.text key, .text text)]
  | none => []

/-- The message with the arguments filled in. Without arguments it is text as it stands; a single argument
that is a map names the values. -/
def filledMessage (e : LogEntry) : Except Template.Fault Text :=
  match e.arguments with
  | [] => .ok e.message
  | [.map (entry :: entries)] =>
    Template.fillAll e.message ⟨some (entry :: entries), [.map (entry :: entries)]⟩
  | values => Template.fillAll e.message ⟨none, values⟩

/-- The entry as an object. -/
def report (e : LogEntry) : Except Template.Fault Value := do
  let message ← e.filledMessage
  return .map ([(.text "level", .text (levelName e.level)), (.text "logger", .text e.logger),
      (.text "message", .text message)] ++
    part? "error_code" e.errorCode ++ part? "path" e.path ++
    part? "exception" (e.cause.map causeText))

end LogEntry
end FixedExtract
