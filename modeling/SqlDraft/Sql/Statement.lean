import SqlDraft.Sql.Clause

/-!
# Statements

* `StatementKind`: the kinds of statements.
* `StatementKind.ofValue`: the kind a value names.
* `selectStatement`, `valueStatement`, `updateStatement`, `deleteStatement`: the texts. The clauses are
  evaluated in the order in which they are listed; the first fault is the fault of the statement.
* `StatementKind.render`: the text of a statement of a kind.
-/

namespace SqlDraft

/-- The kinds of statements. -/
inductive StatementKind
  | select | insert | insertSelect | replace | update | delete
  deriving DecidableEq

namespace StatementKind

/-- All kinds. -/
def all : List StatementKind := [select, insert, insertSelect, replace, update, delete]

/-- The word that names a kind. -/
def word : StatementKind → String
  | select => "select"
  | insert => "insert"
  | insertSelect => "insert_select"
  | replace => "replace"
  | update => "update"
  | delete => "delete"

/-- The word that names a kind, as a value. -/
def toValue (k : StatementKind) : Value := .text k.word

/-- The kind a word names. -/
def ofWord? (s : String) : Option StatementKind := all.find? fun k => k.word == s

@[simp] theorem ofWord?_word (k : StatementKind) : ofWord? k.word = some k := by
  cases k <;> decide

/-- The kind a value names. -/
def ofValue (v : Value) : Except Fault StatementKind := do
  let known := match v with
    | .text s => ofWord? s
    | _ => none
  match known with
  | some k => .ok k
  | none => .error (.unknownStatement (← v.quoted))

@[simp] theorem ofValue_toValue (k : StatementKind) : ofValue k.toValue = .ok k := by
  simp [ofValue, toValue]

end StatementKind

/-- A selecting statement. A clause that is left out keeps the spaces around it. -/
def selectStatement (s : State) : Except Fault String := do
  let fields ← fieldsClause s.current.fields
  let tables ← tablesClause s.current.tables
  let joins ← joinsClause s.current.joins
  let predicates ← whereClause s.current.predicates
  let groups ← groupClause s.current.groups
  let orders ← orderClause s.current.orders
  let limit ← limitClause s.limit
  .ok ("SELECT " ++ fields ++ " FROM (" ++ tables ++ ") " ++ joins ++ " " ++ predicates ++ " " ++
    groups ++ " " ++ orders ++ " " ++ limit)

/-- An inserting statement with its verb. Fields and values come from the same entries, so they stay
side by side. -/
def valueStatement (verb : String) (s : State) : Except Fault String := do
  let table ← targetTable s.current.tables
  let fields ← (← s.insertions.keys).mapM Value.shown
  let values ← (← s.insertions.values).mapM Value.shown
  .ok (verb ++ " INTO " ++ (← table.shown) ++ " (" ++ Value.joinTexts "," fields ++ ") VALUES (" ++
    Value.joinTexts "," values ++ ")")

/-- One assignment of an updating statement. -/
def assignmentItem (e : Value × Value) : Except Fault String := do
  .ok ((← e.1.shown) ++ " = " ++ (← e.2.shown))

/-- An updating statement. -/
def updateStatement (s : State) : Except Fault String := do
  let table ← targetTable s.current.tables
  let assignments ← (← s.updates.pairs).mapM assignmentItem
  let predicates ← whereClause s.current.predicates
  .ok ("UPDATE " ++ (← table.shown) ++ " SET " ++ Value.joinTexts ", " assignments ++ " " ++
    predicates)

/-- A deleting statement. -/
def deleteStatement (s : State) : Except Fault String := do
  let table ← targetTable s.current.tables
  let predicates ← whereClause s.current.predicates
  let limit ← limitClause s.limit
  .ok ("DELETE FROM " ++ (← table.shown) ++ " " ++ predicates ++ " " ++ limit)

namespace StatementKind

/-- The text of a statement of a kind. -/
def render : StatementKind → State → Except Fault String
  | select => selectStatement
  | insert => valueStatement "INSERT"
  | insertSelect => valueStatement "INSERT"
  | replace => valueStatement "REPLACE"
  | update => updateStatement
  | delete => deleteStatement

end StatementKind

end SqlDraft
