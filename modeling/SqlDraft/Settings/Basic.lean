import SqlDraft.Signature
import SqlDraft.Value.Entry

/-!
# Settings

Where the database is, which prefix table names get, and how much is logged.

* `Database`, `Settings`: the settings.
* `Environment.ofVariables`: an environment; not every name and value can stand in one.
* `Settings.ofEnvironment`: the settings an environment describes, with a default for every variable.
* `Settings.get`, `lookup`: a setting under its older key; an empty setting counts as none.
-/

namespace SqlDraft

/-- How to reach a database. Any value can be put in place of what an environment describes. -/
structure Database where
  driver : Value
  host : Value
  port : Value
  user : Value
  password : Value
  name : Value

/-- The settings. -/
structure Settings where
  database : Database
  tablePrefix : Value
  logLevel : String

/-- The variables of an environment. -/
abbrev Environment := List (String × String)

namespace Environment

/-- A variable. Its value must be a text, neither its name nor its value can hold a null character, and
its name must not be empty or hold an equals sign. -/
def entry (name : String) (v : Value) : Except Fault (String × String) :=
  match v with
  | .text s =>
    if holdsNull name || holdsNull s then .error .nullCharacter
    else if name.toList.contains '=' then .error .wrongVariableName
    else if name = "" then .error .emptyVariableName
    else .ok (name, s)
  | v => .error (.notVariableText v.kind)

/-- The environment of some variables. -/
def ofVariables (vs : List (String × Value)) : Except Fault Environment :=
  vs.mapM fun e => entry e.1 e.2

end Environment

namespace Settings

/-- The value of a variable, or a default. -/
def lookupIn (env : Environment) (name default : String) : String :=
  (env.lookup name).getD default

/-- The settings of an environment. The given prefix wins over that of the environment unless it is
null. -/
def ofEnvironment (env : Environment) (tablePrefix : Value) : Except Fault Settings := do
  let port ← readInteger (lookupIn env "DB_PORT" "3306")
  .ok
    { database :=
        { driver := .text (lookupIn env "DB_DRIVER" "mysql+pymysql")
          host := .text (lookupIn env "DB_HOST" "localhost")
          port := .int port
          user := .text (lookupIn env "DB_USER" "root")
          password := .text (lookupIn env "DB_PASSWORD" "")
          name := .text (lookupIn env "DB_NAME" "") }
      tablePrefix := match tablePrefix with
        | .null => .text (lookupIn env "DB_PREFIX" "")
        | p => p
      logLevel := lookupIn env "LOG_LEVEL" "INFO" }

/-- The setting an older key stands for. -/
def ofKey? (s : Settings) : String → Option Value
  | "dbprefix" => some s.tablePrefix
  | "dbtype" => some s.database.driver
  | "dbhost" => some s.database.host
  | "dbport" => some s.database.port
  | "dbuser" => some s.database.user
  | "dbpass" => some s.database.password
  | "dbname" => some s.database.name
  | _ => none

/-- A setting that is set: neither null nor an empty text. -/
def orDefault (default : Value) : Value → Value
  | .null => default
  | .text "" => default
  | v => v

/-- The setting under an older key, or a default if there is no such key or it is not set. -/
def get (s : Settings) (key default : Value) : Except Fault Value :=
  match key.keyFault with
  | some f => .error f
  | none =>
    match key with
    | .text k => .ok (((s.ofKey? k).map (orDefault default)).getD default)
    | _ => .ok default

/-- The parameters of a look-up: a key, and a default that is null if it is left out. -/
def lookupSignature : Signature := ⟨"Config.get", ["key"], 1, 1, 0⟩

/-- A look-up with arguments in order. -/
def lookup (s : Settings) (args : List Value) : Except Fault Value := do
  lookupSignature.check args.length
  s.get (args.getD 0 .null) (args.getD 1 .null)

end Settings

end SqlDraft
