import SqlDraft.Sql.State
import SqlDraft.Value.Text

/-!
# Clauses

The parts of a statement. Fragments are raw SQL and go into the text as they are.

* `flatten`: fragments with their groups opened, one level deep.
* `fieldsClause`: the select list, or `*`.
* `tablesClause`, `targetTable`: the tables with their aliases, and the first of them.
* `JoinType`, `joinsClause`: the joins, each followed by a space.
* `whereClause`, `groupClause`, `orderClause`, `limitClause`: empty texts when there is nothing to say.
-/

namespace SqlDraft

/-- Fragments with their groups opened. -/
def flattenList (vs : List Value) : List Value :=
  vs.flatMap fun
    | .list xs => xs
    | .tuple xs => xs
    | v => [v]

/-- The elements of a value with their groups opened. -/
def flatten (v : Value) : Except Fault (List Value) := v.elements.map flattenList

theorem flattenList_append (vs ws : List Value) :
    flattenList (vs ++ ws) = flattenList vs ++ flattenList ws := by
  simp [flattenList]

/-- The select list, or `*` if it is empty. -/
def fieldsClause (fields : Value) : Except Fault String := do
  match ← flatten fields with
  | [] => .ok "*"
  | vs => Value.joinedList "," vs

/-- A table with its alias, in parentheses. -/
def tableItem (e : Value × Value) : Except Fault String := do
  let table ← e.2.shown
  let name ← e.1.shown
  .ok ("(" ++ table ++ " AS " ++ name ++ ")")

/-- The tables with their aliases. -/
def tablesClause (tables : Value) : Except Fault String := do
  let es ← tables.pairs
  .ok (Value.joinTexts "," (← es.mapM tableItem))

/-- The first table, or an empty text. -/
def targetTable (tables : Value) : Except Fault Value := do
  let vs ← tables.values
  .ok (vs.headD (.text ""))

/-! ## Joins -/

/-- The common types of joins. -/
inductive JoinType
  | left | right | inner
  deriving DecidableEq

namespace JoinType

/-- The word that names a type. -/
def word : JoinType → String
  | left => "left"
  | right => "right"
  | inner => "inner"

/-- The word that names a type, as a value. -/
def toValue (t : JoinType) : Value := .text t.word

end JoinType

/-- A join that says nothing about its type is a left join. -/
def defaultJoinType : Value := JoinType.left.toValue

/-- One join. A join without an alias takes the name of its table; one without a condition has no
`ON`. -/
def joinItem (j : Value) : Except Fault String := do
  let table ← j.entry "table"
  let name := (← j.entry? "alias").orElse table
  let condition := (← j.entry? "condition").orElse (.text "")
  let type ← ((← j.entry? "type").orElse defaultJoinType).upper
  let head := (← type.shown) ++ " JOIN " ++ (← table.shown) ++ " AS " ++ (← name.shown) ++ " "
  if condition.truthy then .ok (head ++ "ON " ++ (← condition.shown) ++ " ") else .ok head

/-- The joins one after the other. -/
def joinsClause (joins : Value) : Except Fault String := do
  let js ← joins.elements
  .ok (Value.joinTexts "" (← js.mapM joinItem))

/-! ## Conditions, groups, order and limit -/

/-- The predicates, all of which must hold. -/
def whereClause (predicates : Value) : Except Fault String := do
  match ← flatten predicates with
  | [] => .ok ""
  | vs => .ok ("WHERE " ++ (← Value.joinedList " AND " vs))

/-- The grouping expressions. -/
def groupClause (groups : Value) : Except Fault String := do
  if groups.truthy then .ok ("GROUP BY " ++ (← groups.joined ",")) else .ok ""

/-- The ordering expressions. -/
def orderClause (orders : Value) : Except Fault String := do
  if orders.truthy then .ok ("ORDER BY " ++ (← orders.joined ",")) else .ok ""

/-- A limit above zero, without its fraction. -/
def limitClause (limit : Value) : Except Fault String := do
  if ← limit.isPositive then .ok ("LIMIT " ++ (← signedText (← limit.toInteger))) else .ok ""

end SqlDraft
