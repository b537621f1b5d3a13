import SqlDraft.Calendar.Moment
import SqlDraft.Journal.Level
import SqlDraft.Template.Fill

/-!
# Records

A record is one message to a log, with the values its template is filled from, and with what is known of where it
comes from. It may tell of an exception, whose text is noted when the record is written for the first time.

* `levelLabel`: what a record calls a level.
* `fieldNames`, `FurtherFields`: the names of the fields, and fields of other names.
* `Record`, `Record.make`: the records; a new record is named after its level.
* `Record.supply`, `Record.text`: the message, filled from the values.
* `Record.time`: the time, in whole seconds.
* `Record.isNoted`, `Record.note`: whether no text of an exception is missing, and the text.
* `Record.fields`, `entries`: the fields by their names, and what a template for records can name.
-/

namespace SqlDraft

/-- The levels and what records call them. -/
def levelLabels : Entries := Level.named.map fun e => (.int e.2.rank, .text e.1)

/-- The number of the level that a value names. -/
def levelNumber? : Value → Option Value
  | .text s => (Level.ofName? s).map fun l => .int l.rank
  | _ => none

/-- What a record calls a level. Anything can stand for a level: its number stands for a level that has a
name, its name for that number, and any other value for a level that is named by it. -/
def levelLabel (level : Value) : Except Fault Value :=
  match level.keyFault with
  | some f => .error f
  | none =>
    match Entries.get? level levelLabels, levelNumber? level with
    | some name, _ => .ok name
    | none, some rank => .ok rank
    | none, none => do .ok (.text ("Level " ++ (← level.shown)))

/-- The names of the fields that every record has, or is given when it is written. -/
def fieldNames : List String :=
  ["name", "msg", "args", "levelname", "levelno", "pathname", "filename", "module", "exc_info", "exc_text",
    "stack_info", "lineno", "funcName", "created", "msecs", "relativeCreated", "thread", "threadName",
    "processName", "process", "message", "asctime"]

/-- Fields besides those that every record has: no name stands twice, and none is that of another field. -/
structure FurtherFields (fs : List (String × Value)) : Prop where
  nodup : (fs.map Prod.fst).Nodup
  fresh : ∀ name ∈ fs.map Prod.fst, name ∉ fieldNames

theorem FurtherFields.nil : FurtherFields [] := ⟨List.nodup_nil, by rintro _ ⟨⟩⟩

/-- A message to a log. Most of its fields can hold any values. -/
structure Record where
  /-- The name of the logger. -/
  logger : Value
  level : Value
  /-- What the level is called. -/
  levelName : Value
  /-- The template of the message. -/
  message : Value
  values : List Value
  /-- The seconds from 1970 to the making of the record. -/
  created : Binary64
  /-- The place in a program. -/
  path : Value := .text ""
  file : Value := .text ""
  moduleName : Value := .text ""
  line : Value := .int 0
  function : Value := .null
  /-- The exception that the record tells of; a value that does not count as present stands for none. -/
  exception : Value := .null
  /-- The text of the exception, once it is noted. -/
  exceptionText : Value := .null
  /-- What the exception is as a text, or why it has none. -/
  traceback : Except Fault String := .ok ""
  stack : Value := .null
  milliseconds : Value := .float (.zero false)
  sinceStart : Value := .float (.zero false)
  thread : Value := .int 0
  threadName : Value := .text "MainThread"
  processName : Value := .text "MainProcess"
  process : Value := .int 0
  /-- Further fields by their names. -/
  further : List (String × Value) := []
  further_fields : FurtherFields further := by exact .nil

namespace Record

/-- A new record, which tells of no exception. -/
def make (logger level message : Value) (values : List Value) (created : Int) :
    Except Fault Record := do
  let levelName ← levelLabel level
  .ok { logger, level, levelName, message, values, created := Binary64.ofInteger created }

/-- The values of a message. A single dictionary with entries is a supply by names. -/
def supply : List Value → Supply
  | [.dict (e :: es)] => .ofDictionary (.dict (e :: es))
  | vs => .sequence vs

/-- The message. Without values it is not filled. -/
def text (r : Record) : Except Fault String := do
  let template ← r.message.shown
  if r.values.isEmpty then .ok template else fill template (supply r.values)

/-- The values of a record as its templates see them. -/
def valuesEntry (vs : List Value) : Value :=
  match supply vs with
  | .dictionary d _ => d
  | .sequence vs => .tuple vs

/-- The time at which a record was made. -/
def time (r : Record) : Except Fault String := do unixText (← r.created.truncate)

/-- Whether no text of an exception is missing. -/
def isNoted (r : Record) : Bool := !r.exception.truthy || r.exceptionText.truthy

/-- The text of the exception: the one that was noted, or else a new one. -/
def note (r : Record) : Except Fault Value :=
  if r.isNoted then .ok r.exceptionText else r.traceback.map .text

/-- The fields of a record by their names. -/
def fields (r : Record) : List (String × Value) :=
  [("name", r.logger), ("msg", r.message), ("args", valuesEntry r.values), ("levelname", r.levelName),
    ("levelno", r.level), ("pathname", r.path), ("filename", r.file), ("module", r.moduleName),
    ("exc_info", r.exception), ("exc_text", r.exceptionText), ("stack_info", r.stack), ("lineno", r.line),
    ("funcName", r.function), ("created", .float r.created), ("msecs", r.milliseconds),
    ("relativeCreated", r.sinceStart), ("thread", r.thread), ("threadName", r.threadName),
    ("processName", r.processName), ("process", r.process)] ++ r.further

/-- What a template can name in a record with a given message, and with its time if that is asked for. -/
def entries (r : Record) (text : String) (time : Option String) : Entries :=
  .named (r.fields ++ ("message", .text text) :: time.toList.map fun t => ("asctime", .text t))

end Record

end SqlDraft
