import SqlDraft.Journal.Naming
import SqlDraft.Journal.Setup
import SqlDraft.Signature

/-!
# The journal

The journal takes records from loggers and hands those that weigh enough to its handlers, which write
them to the console or to a file.

* `Journal`, `Journal.initial`: the journal; at first it has no handlers, whatever files there are.
* `Journal.setup`: sets the level of the root logger and replaces all handlers. What was done before a fault
  stays done.
* `Journal.logger`: a logger by its name.
* `Journal.takes`: whether a logger takes messages of a level.
* `Journal.log`: a message through a logger.
-/

namespace SqlDraft

/-- The loggers, the handlers of the root logger, and the files. -/
structure Journal where
  rootLevel : Level
  levels : Levels
  /-- For loggers and levels of messages, whether the logger took the message. A decision stands until a
  level is set. -/
  decisions : List ((String × Level) × Bool)
  handlers : List Handler
  tree : Tree

namespace Journal

/-- The journal before it is set up, with the files that there are. -/
def initial (tree : Tree) : Journal := ⟨.warning, [], [], [], tree⟩

end Journal

/-! ## Setting up -/

namespace Journal

variable (refuses : Refusals)

/-- Opens the file of a handler and adds the handler. -/
def openFile (j : Journal) (parts : List String) (l : Level) : Journal × Except Fault Unit :=
  match j.tree.openFile refuses parts with
  | .error f => (j, .error f)
  | .ok (tree, p) =>
    ({ j with tree := tree, handlers := j.handlers ++ [Setup.fileHandler p l] }, .ok ())

/-- Makes the directory of a handler's file, opens the file and adds the handler. -/
def addFile (j : Journal) (s : Setup) (l : Level) : Journal × Except Fault Unit :=
  match s.directoryParts with
  | .error f => (j, .error f)
  | .ok directory =>
    match j.tree.makeDirectories refuses directory with
    | (tree, .error f) => ({ j with tree := tree }, .error f)
    | (tree, .ok ()) =>
      let j := { j with tree := tree }
      match s.fileParts with
      | .error f => (j, .error f)
      | .ok file => j.openFile refuses (directory ++ file) l

/-- Sets the level of the root logger and replaces its handlers. -/
def setup (j : Journal) (s : Setup) : Journal × Except Fault Unit :=
  match levelOf s.level with
  | .error f => (j, .error f)
  | .ok l =>
    let j := { j with rootLevel := l, decisions := [], handlers := s.consoleHandlers l }
    if s.file.truthy then j.addFile refuses s l else (j, .ok ())

/-! ## Loggers -/

/-- The name of a logger. A value that does not count as present stands for the root logger. -/
def nameOf (name : Value) : Except Fault String :=
  match name.orElse (.text "") with
  | .text s => .ok s
  | _ => .error .notLoggerName

/-- What a logger tells about itself. -/
structure LoggerView where
  name : String
  own : Level
  effective : Level

/-- What the logger of a name tells about itself. -/
def view (j : Journal) (name : String) : LoggerView :=
  if isRootName name then ⟨rootName, j.rootLevel, j.rootLevel⟩
  else ⟨name, j.levels.own name, j.levels.effective j.rootLevel name⟩

/-- Notes that a logger was asked for. -/
def note (j : Journal) (name : String) : Journal :=
  if isRootName name then j else { j with levels := j.levels.note name }

/-- Sets the level of a logger. All decisions are void. -/
def setLevel (j : Journal) (name : String) (l : Level) : Journal :=
  if isRootName name then { j with rootLevel := l, decisions := [] }
  else { j with levels := j.levels.set name l, decisions := [] }

/-- The parameters of a request for a logger beside its name. -/
def loggerSignature : Signature := ⟨"get_logger", [], 1, 1, 0⟩

/-- The logger of a name. Its level is set if one is given. -/
def logger (j : Journal) (name : String) (level : Value) : Journal × Except Fault LoggerView :=
  let j := j.note name
  if level.truthy then
    match levelOf level with
    | .error f => (j, .error f)
    | .ok l =>
      let j := j.setLevel name l
      (j, .ok (j.view name))
  else (j, .ok (j.view name))

/-! ## Messages -/

/-- The level of a message: an integer, or a truth value as one. Nothing else is a level. -/
def messageLevel? : Value → Option Level
  | .int i => some ⟨i⟩
  | .bool b => some ⟨if b then 1 else 0⟩
  | _ => none

/-- Whether a logger takes messages of a level by the level that counts for it. -/
def admits (j : Journal) (name : String) (l : Level) : Bool :=
  0 < l.rank && (j.view name).effective.rank ≤ l.rank

/-- Whether a logger takes messages of a level: as it was decided, if it was. -/
def takes (j : Journal) (name : String) (l : Level) : Bool :=
  (j.decisions.lookup ((j.view name).name, l)).getD (j.admits name l)

/-- Notes whether a logger takes messages of a level. -/
def decided (j : Journal) (name : String) (l : Level) : Journal :=
  { j with decisions := ((((j.view name).name, l), j.takes name l) :: j.decisions) }

/-- A record on its way through the handlers. -/
structure Delivery where
  level : Level
  record : Record
  tree : Tree
  /-- What was written to the console. -/
  console : String

/-- The end of a line. -/
def lineEnd : String := "\n"

/-- Writes a line to where a handler writes. -/
def Delivery.write (d : Delivery) (target : Target) (line : String) : Delivery :=
  match target with
  | .console => { d with console := d.console ++ line ++ lineEnd }
  | .file p => { d with tree := d.tree.append p (line ++ lineEnd) }

/-- Hands a record to a handler. A record that cannot be written is passed over. -/
def Delivery.through (d : Delivery) (h : Handler) : Delivery :=
  if h.level.rank ≤ d.level.rank then
    match h.formatter.format d.record with
    | (r, .ok line) => { d with record := r }.write h.target line
    | (r, .error _) => { d with record := r }
  else d

/-- Hands a record to all handlers. What is written to the console is the answer. -/
def deliver (j : Journal) (l : Level) (record : Record) : Journal × String :=
  let d := j.handlers.foldl Delivery.through ⟨l, record, j.tree, ""⟩
  ({ j with tree := d.tree }, d.console)

/-- Hands a message to the handlers if its logger takes it. A message whose level is none is passed
over. What is written to the console is the answer. -/
def log (j : Journal) (name : String) (level message : Value) (values : List Value) (created : Int) :
    Journal × Except Fault String :=
  match messageLevel? level with
  | none => (j, .ok "")
  | some l =>
    let j := j.decided name l
    if j.takes name l then
      match Record.make (.text (j.view name).name) level message values created with
      | .error f => (j, .error f)
      | .ok record =>
        let (j, console) := j.deliver l record
        (j, .ok console)
    else (j, .ok "")

end Journal

end SqlDraft
