import SqlDraft.Settings.Url

/-!
# Engines

An engine stands for a database that can be connected to. Only the dialect of file databases is known.

* `Echo`, `Echo.ofValue`: how much an engine tells the log about its statements.
* `Engine`: an engine.
* `dialectOf`: the dialect of a driver.
* `Settings.engine`: the engine of the settings.
-/

namespace SqlDraft

/-- How much an engine tells the log about the statements it sends. -/
inductive Echo
  | none
  | statements
  /-- Statements and what comes back. -/
  | answers
  deriving DecidableEq

namespace Echo

/-- The word that asks for all that can be told. -/
def fullWord : Value := .text "debug"

/-- What a value asks for: nothing asks for nothing, nor does zero; one asks for the statements. -/
def ofValue (v : Value) : Except Fault Echo :=
  if v.sameKey .null || v.sameKey (.bool false) then .ok none
  else
    match v.keyFault with
    | some f => .error f
    | Option.none =>
      if v.sameKey (.bool true) then .ok statements
      else if v.sameKey fullWord then .ok answers
      else do .error (.missingKey (← v.quoted))

end Echo

/-- An engine. -/
structure Engine where
  url : Url
  dialect : String
  /-- What is told about statements as they are sent. -/
  echo : Echo
  /-- Whether a pooled connection is tried before it is used. -/
  tests : Bool

/-- The dialects that are known, by the names under which they are found. -/
def knownDialects : List (String × String) := [("sqlite", "sqlite"), ("sqlite.pysqlite", "sqlite")]

/-- The dialect of a driver. It is found under the name of the driver, with a point for every plus. -/
def dialectOf (driver : String) : Except Fault String :=
  let name := driver.map fun c => if c = '+' then '.' else c
  match knownDialects.lookup name with
  | some dialect => .ok dialect
  | none =>
    .error (if 2 ≤ name.toList.count '.' then .tooManyParts else .unknownDialect name)

/-- The parameters of an engine beside the settings: what it tells about its statements. -/
def Engine.signature : Signature := ⟨"create_sqlalchemy_engine", [], 1, 1, 0⟩

/-- The engine of the settings, with arguments in order. -/
def Settings.engine (s : Settings) (args : List Value) : Except Fault Engine := do
  Engine.signature.check args.length
  let url ← s.database.url
  let dialect ← dialectOf url.driver
  .ok ⟨url, dialect, ← Echo.ofValue (args.getD 0 (.bool false)), true⟩

end SqlDraft
