import SqlDraft.Journal.Basic

/-!
# Runs of the journal

A run asks the journal to set itself up, to name a logger, or to take a message, in any order.

* `Request`: what the journal can be asked to do.
* `Report`: the journal after a request, with the answer and what was written to the console.
* `Journal.step`, `run`, `after`: one request, the reports of several, and the journal they leave.
-/

namespace SqlDraft

/-- What the journal can be asked to do. -/
inductive Request
  /-- A setup with options, and what the system refuses meanwhile. -/
  | setup (refuses : Refusals) (options : List (String × Value))
  /-- The logger of a name, with further arguments. -/
  | logger (name : Value) (args : List Value)
  /-- A message with its values, which may have been misread, and the time at which it is logged. -/
  | log (created : Int) (name level message : Value) (values : Except Fault (List Value))

/-- What a request leaves behind. -/
structure Report where
  journal : Journal
  /-- A request for a logger is answered by what the logger tells about itself. -/
  answer : Except Fault (Option Journal.LoggerView)
  console : String

namespace Journal

/-- The report of a request that failed. -/
def failed (j : Journal) (f : Fault) : Report := ⟨j, .error f, ""⟩

/-- The report of a request that is answered by the state of the journal alone. -/
def done (j : Journal) (console : Except Fault String) : Report :=
  match console with
  | .error f => j.failed f
  | .ok s => ⟨j, .ok none, s⟩

/-- A message through a logger that was asked for. -/
def message (j : Journal) (created : Int) (name : String) (level message : Value)
    (values : Except Fault (List Value)) : Report :=
  match values with
  | .error f => j.failed f
  | .ok values =>
    let (j, console) := j.log name level message values created
    j.done console

/-- A setup with options. -/
def setupWith (j : Journal) (refuses : Refusals) (options : List (String × Value)) : Report :=
  match Setup.ofOptions options with
  | .error f => j.failed f
  | .ok s =>
    let (j, answer) := j.setup refuses s
    j.done (answer.map fun _ => "")

/-- The logger of a name, with further arguments. -/
def loggerWith (j : Journal) (name : Value) (args : List Value) : Report :=
  match loggerSignature.check args.length, nameOf name with
  | .error f, _ | .ok _, .error f => j.failed f
  | .ok _, .ok name =>
    let (j, answer) := j.logger name (args.getD 0 .null)
    ⟨j, answer.map some, ""⟩

/-- One request. -/
def step (j : Journal) : Request → Report
  | .setup refuses options => j.setupWith refuses options
  | .logger name args => j.loggerWith name args
  | .log created name level message values =>
    match nameOf name with
    | .error f => j.failed f
    | .ok name => (j.note name).message created name level message values

/-- The reports of several requests. -/
def run (j : Journal) : List Request → List Report
  | [] => []
  | r :: rs =>
    let report := j.step r
    report :: run report.journal rs

/-- The journal that several requests leave. -/
def after (j : Journal) (rs : List Request) : Journal := rs.foldl (fun j r => (j.step r).journal) j

@[simp] theorem run_cons (j : Journal) (r : Request) (rs : List Request) :
    j.run (r :: rs) = j.step r :: (j.step r).journal.run rs := rfl

end Journal

end SqlDraft
