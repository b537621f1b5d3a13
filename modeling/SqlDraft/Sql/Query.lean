import SqlDraft.Journal.Level
import SqlDraft.Sql.Functions
import SqlDraft.Sql.Literal
import SqlDraft.Sql.Statement

/-!
# Queries

A query collects the fragments of one statement, call by call. What counts as absent is passed over:
an empty name, an empty fragment, a limit that is not above zero.

* `Query`: the collected state with the prefix of the table names and the kind of statement.
* `Notice`: what a query tells its log.
* `Query.addTable`, `addFields`, `addPredicates`, `addOrder`, `addGroup`, `addJoin`: the fragments.
* `Query.setLimit`: the row limit.
* `Assignment`, `Query.assign`: values for fields; those set before a fault stay set.
* `Query.setDelete`, `clear`: the kind of statement, and a new start.
-/

namespace SqlDraft

/-- A query. -/
structure Query where
  /-- What stands before every table name. -/
  tablePrefix : Value
  /-- The name of the connection the query comes with. -/
  connection : Option String
  /-- The tokens of the server's functions, as they were when the query was made. -/
  tokens : List String
  state : State
  /-- The kind of statement to prepare. -/
  kind : Value

/-- A message to a log. -/
structure Notice where
  level : Level
  logger : String
  message : String
  deriving DecidableEq

namespace Query

/-- A query that has collected nothing. -/
def blank (tablePrefix : Value) (connection : Option String) : Query :=
  ⟨tablePrefix, connection, [nowToken], .empty, StatementKind.select.toValue⟩

/-- Forgets every fragment; the prefix, the connection and the tokens stay. -/
def clear (q : Query) : Query :=
  { q with state := .empty, kind := StatementKind.select.toValue }

@[simp] theorem clear_tablePrefix (q : Query) : q.clear.tablePrefix = q.tablePrefix := rfl

@[simp] theorem clear_connection (q : Query) : q.clear.connection = q.connection := rfl

@[simp] theorem clear_tokens (q : Query) : q.clear.tokens = q.tokens := rfl

@[simp] theorem clear_clear (q : Query) : q.clear.clear = q.clear := rfl

@[simp] theorem clear_blank (p : Value) (c : Option String) : (blank p c).clear = blank p c := rfl

/-- The name under which a query logs. -/
def logger : String := "sql.query"

/-- Replaces a member of the state. -/
def setMember (q : Query) (m : Member) (v : Value) : Query := { q with state := q.state.set m v }

theorem setMember_get (q : Query) (m : Member) : q.setMember m (q.state.get m) = q := by
  cases m with
  | slot t => cases t <;> rfl
  | limit | insertions | updates => rfl

theorem setMember_setMember (q : Query) (m : Member) (v w : Value) :
    (q.setMember m v).setMember m w = q.setMember m w := by
  cases m with
  | slot t => cases t <;> rfl
  | limit | insertions | updates => rfl

/-- Replaces a legacy collection. -/
def setLegacy (q : Query) (s : Slot) (v : Value) : Query :=
  { q with state := q.state.setLegacy s v }

/-- Replaces the kind of statement. -/
def setKind (q : Query) (k : Value) : Query := { q with kind := k }

/-! ## Fragments -/

/-- A table name behind the prefix. -/
def tableName (q : Query) (table : Value) : Except Fault String := do
  .ok ((← q.tablePrefix.shown) ++ (← table.shown))

/-- Adds a table under its alias; an alias that is there already is pointed to the new table. -/
def addTable (q : Query) (table short : Value) : Except Fault Query := do
  if table.truthy then
    let name ← q.tableName table
    let tables ← q.state.current.tables.assign (short.orElse table) (.text name)
    .ok (q.setMember (.slot .tables) tables)
  else .ok q

/-- Adds a fragment to the end of a collection. -/
def addFragment (q : Query) (s : Slot) (fragment : Value) : Except Fault Query := do
  if fragment.truthy then
    let fragments ← (q.state.current.get s).append fragment
    .ok (q.setMember (.slot s) fragments)
  else .ok q

/-- Adds an expression, or a group of expressions, to the select list. -/
def addFields (q : Query) (fragment : Value) : Except Fault Query := q.addFragment .fields fragment

/-- Adds a predicate, or a group of predicates. -/
def addPredicates (q : Query) (fragment : Value) : Except Fault Query :=
  q.addFragment .predicates fragment

/-- Adds an ordering expression. -/
def addOrder (q : Query) (fragment : Value) : Except Fault Query := q.addFragment .orders fragment

/-- Adds a grouping expression. -/
def addGroup (q : Query) (fragment : Value) : Except Fault Query := q.addFragment .groups fragment

/-- A join as it is kept. -/
def joinEntry (table : String) (short condition type : Value) : Value :=
  .dict [(.text "table", .text table), (.text "alias", short), (.text "condition", condition),
    (.text "type", type)]

/-- Adds a join to the legacy joins. -/
def addJoin (q : Query) (table short condition type : Value) : Except Fault Query :=
  match q.state.legacy.joins with
  | .list joins => do
    let name ← q.tableName table
    .ok (q.setLegacy .joins (.list (joins ++ [joinEntry name (short.orElse table) condition type])))
  | joins => .error (.noMember joins.kind "append")

/-- Adds a value to the end of a legacy collection. -/
def appendLegacy (q : Query) (s : Slot) (v : Value) : Except Fault Query := do
  .ok (q.setLegacy s (← (q.state.legacy.get s).append v))

/-! ## The limit -/

/-- A value as a row limit: the integer a text starts with, a number without its fraction, and zero
for everything else. Want of memory is not passed over. -/
def limitOf : Value → Except Fault Int
  | .text s => leadingInteger s
  | v => match v.toInteger with
    | .ok i => .ok i
    | .error .outOfMemory => .error .outOfMemory
    | .error _ => .ok 0

/-- The notice of a limit that was passed over. A value that cannot be shown leaves no notice. -/
def limitNotice (limit : Value) : List Notice :=
  match limit.quoted with
  | .ok shown => [⟨.debug, logger, "Ignoring non-positive limit " ++ shown⟩]
  | .error _ => []

/-- Sets the row limit, if it is above zero. -/
def setLimit (q : Query) (limit : Value) : Except Fault (Query × List Notice) := do
  let n ← limitOf limit
  if 0 < n then .ok (q.setMember .limit (.int n), []) else .ok (q, limitNotice limit)

end Query

/-! ## Values for fields -/

/-- The statements that assign values to fields. -/
inductive Assignment
  | insert | replace | update
  deriving DecidableEq

namespace Assignment

/-- The member that keeps the assigned values. -/
def member : Assignment → Member
  | insert | replace => .insertions
  | update => .updates

/-- The kind of statement an assignment turns a query into. -/
def kind : Assignment → StatementKind
  | insert => .insert
  | replace => .replace
  | update => .update

end Assignment

namespace Query

/-- The expression that stands for a value: a raw expression as it is, else a literal. -/
def expression (raw : Bool) (v : Value) : Except Fault Value :=
  if raw then .ok v else (quote v).map .text

/-- Assigns one value to one field; a field without name is passed over. -/
def assignOne (raw : Bool) (target field v : Value) : Except Fault Value := do
  if field.truthy then target.assign field (← expression raw v) else .ok target

/-- Assigns values to fields one after the other, up to the first fault. -/
def assignEach (raw : Bool) : Value → List (Value × Value) → Value × Except Fault Unit
  | target, [] => (target, .ok ())
  | target, (field, v) :: rest =>
    match assignOne raw target field v with
    | .ok target => assignEach raw target rest
    | .error f => (target, .error f)

/-- What several values for several fields amount to: pairs if there are as many, else nothing. -/
def pairsFor (fields values : Value) : Except Fault (Option (List (Value × Value))) :=
  match fields with
  | .text _ => .ok (some [(fields, values)])
  | _ =>
    match values with
    | .list vs | .tuple vs => do
      let n ← fields.length
      if vs.length = n then .ok (some ((← fields.elements).zip vs)) else .ok none
    | _ => .ok none

/-- The notice of values that do not match their fields. -/
def mismatchNotice (fields values : Value) : List Notice :=
  match values.quoted, fields.quoted with
  | .ok vs, .ok fs =>
    [⟨.warning, logger, "Ignoring value assignment: " ++ vs ++ " does not match fields " ++ fs⟩]
  | _, _ => []

/-- Assigns a value to a field, or values to as many fields, and turns the query into the statement
that does so. Values that do not match their fields are passed over. -/
def assign (q : Query) (a : Assignment) (fields values : Value) (raw : Bool) :
    Query × Except Fault Unit × List Notice :=
  let done (q : Query) := q.setKind a.kind.toValue
  match pairsFor fields values with
  | .error f => (q, .error f, [])
  | .ok none => (done q, .ok (), mismatchNotice fields values)
  | .ok (some pairs) =>
    match assignEach raw (q.state.get a.member) pairs with
    | (target, .ok ()) => (done (q.setMember a.member target), .ok (), [])
    | (target, .error f) => (q.setMember a.member target, .error f, [])

/-- Adds a table and turns the query into a deleting statement. -/
def setDelete (q : Query) (table : Value) : Except Fault Query := do
  .ok ((← q.addTable table (.text "")).setKind StatementKind.delete.toValue)

end Query

end SqlDraft
