import SqlDraft.Sql.Query

/-!
# Preparing and executing queries

A query is prepared by writing its statement, and executed by sending the statement to a connection:
to the one that is given, else to the one the query comes with. An effect tells the query that is left,
the answer, the notices, and the statements that were sent. On its way to the connection a statement passes
through the database layer, which makes a text of its own of it.

* `Effect`, `Effect.arriving`: what an operation on a query leaves behind, and what arrives at the connections.
* `Query.statement`, `prepareAs`, `prepare`: the statement, and what preparing it leaves behind.
* `Reply`, `Table`: what a connection answers.
* `Table.entries`, `firstEntries`, `firstEntry`, `firstCell`, `firstColumn`: views of a table. A row that has
  no value for a column is a fault only where that value is asked for.
* `Query.execute`: sends the statement. Nothing is sent without a connection or without a statement.
* `Query.loadEntries`, `loadFirst`, `loadCell`, `loadColumn`: the views of the table that comes back.
-/

namespace SqlDraft

/-- What an operation on a query leaves behind. -/
structure Effect (α : Type) where
  query : Query
  answer : Except Fault α
  notices : List Notice
  /-- The statements that were sent, each with the name of the connection. -/
  sent : List (String × String)

namespace Effect

/-- Continues a successful operation with a function that leaves the query alone. -/
def andThen {α β : Type} (e : Effect α) (f : α → Except Fault β) : Effect β :=
  ⟨e.query, e.answer >>= f, e.notices, e.sent⟩

/-- An operation without notices that changes the query if it succeeds. -/
def ofUpdate (q : Query) (r : Except Fault Query) : Effect Unit :=
  match r with
  | .ok q' => ⟨q', .ok (), [], []⟩
  | .error f => ⟨q, .error f, [], []⟩

/-- An operation that only looks. -/
def ofAnswer {α : Type} (q : Query) (r : Except Fault α) : Effect α := ⟨q, r, [], []⟩

/-- What arrives at the connections if the database layer makes `layer sql` of a statement. -/
def arriving {α : Type} (layer : String → String) (e : Effect α) : List (String × String) :=
  e.sent.map fun s => (s.1, layer s.2)

@[simp] theorem andThen_query {α β : Type} (e : Effect α) (f : α → Except Fault β) :
    (e.andThen f).query = e.query := rfl

@[simp] theorem andThen_sent {α β : Type} (e : Effect α) (f : α → Except Fault β) :
    (e.andThen f).sent = e.sent := rfl

end Effect

/-! ## Preparing -/

namespace Query

/-- The statement of a kind. -/
def statement (q : Query) (k : StatementKind) : Except Fault String := k.render q.state.reconciled

/-- The query after it was prepared. -/
def consumed (q : Query) (clears : Bool) : Query := if clears then q.clear else q

/-- The notice of a statement. -/
def statementNotice (k : StatementKind) (sql : String) : Notice :=
  ⟨.debug, logger, "Prepared " ++ k.word ++ ": " ++ sql⟩

/-- Writes the statement of a kind, and clears the query if asked to. -/
def prepareAs (q : Query) (k : StatementKind) (clears : Bool) : Effect String :=
  match q.statement k with
  | .ok sql => ⟨q.consumed clears, .ok sql, [statementNotice k sql], []⟩
  | .error f => ⟨q, .error f, [], []⟩

/-- Writes the statement of the query's own kind. -/
def prepare (q : Query) (clears : Bool) : Effect String :=
  match StatementKind.ofValue q.kind with
  | .ok k => q.prepareAs k clears
  | .error f => ⟨q, .error f, [], []⟩

@[simp] theorem prepareAs_sent (q : Query) (k : StatementKind) (clears : Bool) :
    (q.prepareAs k clears).sent = [] := by
  unfold prepareAs
  split <;> rfl

@[simp] theorem prepare_sent (q : Query) (clears : Bool) : (q.prepare clears).sent = [] := by
  unfold prepare
  split
  · exact prepareAs_sent ..
  · rfl

theorem prepareAs_query (q : Query) (k : StatementKind) (clears : Bool) :
    (q.prepareAs k clears).query =
      match q.statement k with
      | .ok _ => q.consumed clears
      | .error _ => q := by
  unfold prepareAs
  split <;> simp_all

end Query

/-! ## Sending -/

/-- Rows under the names of their columns. -/
structure Table where
  columns : List String
  rows : List (List Value)

/-- What a connection answers to a statement. -/
inductive Reply
  | table (t : Table)
  /-- The rows that come back cannot be read. -/
  | misread (f : Fault)
  /-- The database refuses the statement. -/
  | refusal (reason : String)
  /-- The connection breaks down. -/
  | breakdown (reason : String)

namespace Query

/-- The name under which failed statements are logged. -/
def executionLogger : String := "utils.database_utils"

/-- The notice of a statement that was refused. -/
def refusalNotice (sql reason : String) : Notice :=
  ⟨.error, executionLogger, "Query failed: " ++ sql ++ " (" ++ reason ++ ")"⟩

/-- Sends a statement that was prepared. -/
def send (connection : String) (reply : Reply) (prepared : Effect String) (sql : String) :
    Effect Table :=
  let sent := [(connection, sql)]
  match reply with
  | .table t => ⟨prepared.query, .ok t, prepared.notices, sent⟩
  | .misread f => ⟨prepared.query, .error f, prepared.notices, sent⟩
  | .refusal reason =>
    ⟨prepared.query, .error (.refused reason sql), prepared.notices ++ [refusalNotice sql reason],
      sent⟩
  | .breakdown reason => ⟨prepared.query, .error (.broken reason), prepared.notices, sent⟩

/-- Prepares the query and sends its statement to the given connection, or to its own. -/
def execute (q : Query) (given : Option String) (clears : Bool) (reply : Reply) : Effect Table :=
  match given.or q.connection with
  | none => ⟨q, .error .noConnection, [], []⟩
  | some connection =>
    let prepared := q.prepare clears
    match prepared.answer with
    | .ok sql => send connection reply prepared sql
    | .error f => ⟨prepared.query, .error f, prepared.notices, []⟩

end Query

/-! ## Tables -/

namespace Table

/-- A row with the names of its columns. Of columns of one name the last counts. -/
def entry (t : Table) (row : List Value) : Except Fault Value :=
  if row.length < t.columns.length then .error .rowTooShort
  else .ok (.dict (Entries.ofPairs ((t.columns.map Value.text).zip row)))

/-- Rows with the names of their columns. -/
def entriesOf (t : Table) (rows : List (List Value)) : Except Fault (List Value) := rows.mapM t.entry

/-- All rows with the names of their columns. -/
def entries (t : Table) : Except Fault (List Value) := t.entriesOf t.rows

/-- The largest number of rows that can be asked for. -/
def largestCount : Int := Nat.pow 2 63 - 1

/-- The first rows, as many as a value says: all if it says nothing, none if it is not above zero. A
fraction of a row is none. -/
def firstEntries (t : Table) (count : Value) : Except Fault (List Value) :=
  match count with
  | .null => t.entries
  | _ => do
    if ← count.isPositive then
      let n ← count.toInteger
      if largestCount < n then .error .countTooLarge else t.entriesOf (t.rows.take n.toNat)
    else .ok []

/-- The first row with the names of its columns, if there is one. -/
def firstEntry (t : Table) : Except Fault Value :=
  match t.rows with
  | [] => .ok .null
  | row :: _ => t.entry row

/-- The value of a row at a position. -/
def valueAt (row : List Value) (n : Nat) : Except Fault Value :=
  match row[n]? with
  | some v => .ok v
  | none => .error .rowTooShort

/-- The first value of the first row, if there is one. -/
def firstCell (t : Table) : Except Fault Value :=
  match t.rows with
  | [] => .ok .null
  | row :: _ => valueAt row 0

/-- The last position of a name. -/
def lastPosition (name : String) (names : List String) : Nat :=
  names.length - 1 - names.reverse.idxOf name

/-- The values under the name of the first column. Of columns of one name the last counts. -/
def firstColumn (t : Table) : Except Fault (List Value) :=
  match t.columns with
  | [] => .error .noSuchPosition
  | name :: _ => t.rows.mapM fun row => valueAt row (lastPosition name t.columns)

end Table

namespace Query

/-- The rows with the names of their columns, as many as a value says. -/
def loadEntries (q : Query) (given : Option String) (count : Value) (reply : Reply) : Effect Value :=
  (q.execute given true reply).andThen fun t => (t.firstEntries count).map .list

/-- The first row, if there is one. -/
def loadFirst (q : Query) (given : Option String) (reply : Reply) : Effect Value :=
  (q.execute given true reply).andThen Table.firstEntry

/-- The first value of the first row, if there is one. -/
def loadCell (q : Query) (given : Option String) (reply : Reply) : Effect Value :=
  (q.execute given true reply).andThen Table.firstCell

/-- The values of the first column. -/
def loadColumn (q : Query) (given : Option String) (reply : Reply) : Effect Value :=
  (q.execute given true reply).andThen fun t => t.firstColumn.map .list

end Query

end SqlDraft
