import Mathlib.Data.List.Forall2
import SqlDraft.Proofs.Outcome
import SqlDraft.Sql.Statement

/-!
# Outlines of statements

A state whose members are of the right kinds says nothing but texts. Its outline lists these texts, and
the statements are written from the outline without a fault.

* `JoinOutline`, `Outline`: the texts.
* `Outline.text`: the statement of each kind.
* `State.Outlined`: the states that an outline describes.
* `JoinOutline.Describes`: the joins that an outline describes.
* `fieldsClause_eq` to `limitClause_eq`: the clauses of texts, one by one.
* `State.Outlined.render_eq`: a state is written as its outline says.
-/

namespace SqlDraft

/-- A text, or another in place of an empty one. -/
def orOther (s t : String) : String := if s = "" then t else s

@[simp] theorem orOther_empty (s : String) : orOther s "" = s := by
  by_cases h : s = "" <;> simp [orOther, h]

/-- The texts of a join: its table, the name it goes by, its condition, and its type. -/
structure JoinOutline where
  table : String
  name : String
  condition : String
  type : String

namespace JoinOutline

/-- A join in a statement. One without a type is a left join, one without a name goes by its table, and
one without a condition has no `ON`. -/
def text (j : JoinOutline) : String :=
  upperText (orOther j.type "left") ++ " JOIN " ++ j.table ++ " AS " ++ orOther j.name j.table ++ " " ++
    if j.condition = "" then "" else "ON " ++ j.condition ++ " "

/-- A join as it is kept. -/
def value (j : JoinOutline) : Value :=
  .dict [(.text "table", .text j.table), (.text "alias", .text j.name),
    (.text "condition", .text j.condition), (.text "type", .text j.type)]

end JoinOutline

/-- The texts of a state, with its row limit. -/
structure Outline where
  /-- Every alias with its table. -/
  tables : List (String × String)
  fields : List String
  predicates : List String
  joins : List JoinOutline
  groups : List String
  orders : List String
  /-- The row limit, if it is above zero. -/
  limit : Int
  /-- Every field of an inserting statement with its expression. -/
  insertions : List (String × String)
  /-- Every field of an updating statement with its expression. -/
  updates : List (String × String)

namespace Outline

variable (o : Outline)

def fieldsText : String := if o.fields = [] then "*" else ",".intercalate o.fields

def tablesText : String :=
  ",".intercalate (o.tables.map fun t => "(" ++ t.2 ++ " AS " ++ t.1 ++ ")")

def joinsText : String := "".intercalate (o.joins.map JoinOutline.text)

def predicatesText : String :=
  if o.predicates = [] then "" else "WHERE " ++ " AND ".intercalate o.predicates

def groupsText : String := if o.groups = [] then "" else "GROUP BY " ++ ",".intercalate o.groups

def ordersText : String := if o.orders = [] then "" else "ORDER BY " ++ ",".intercalate o.orders

def limitText : String := if 0 < o.limit then "LIMIT " ++ integerText o.limit else ""

/-- The table of a statement about a single table is the first one. -/
def target : String := (o.tables.map Prod.snd).headD ""

def selectText : String :=
  "SELECT " ++ o.fieldsText ++ " FROM (" ++ o.tablesText ++ ") " ++ o.joinsText ++ " " ++
    o.predicatesText ++ " " ++ o.groupsText ++ " " ++ o.ordersText ++ " " ++ o.limitText

def valuesText (verb : String) : String :=
  verb ++ " INTO " ++ o.target ++ " (" ++ ",".intercalate (o.insertions.map Prod.fst) ++
    ") VALUES (" ++ ",".intercalate (o.insertions.map Prod.snd) ++ ")"

def updateText : String :=
  "UPDATE " ++ o.target ++ " SET " ++
    ", ".intercalate (o.updates.map fun u => u.1 ++ " = " ++ u.2) ++ " " ++ o.predicatesText

def deleteText : String :=
  "DELETE FROM " ++ o.target ++ " " ++ o.predicatesText ++ " " ++ o.limitText

/-- The statement of a kind. -/
def text : StatementKind → String
  | .select => o.selectText
  | .insert => o.valuesText "INSERT"
  | .insertSelect => o.valuesText "INSERT"
  | .replace => o.valuesText "REPLACE"
  | .update => o.updateText
  | .delete => o.deleteText

end Outline

/-! ## States -/

/-- The texts of an entry of a dictionary. -/
def shownEntry (e : Value × Value) : Except Fault (String × String) := do
  .ok (← e.1.shown, ← e.2.shown)

/-- The member that a statement of a kind writes besides its fragments. -/
def StatementKind.member : StatementKind → Member
  | select | delete => .limit
  | insert | insertSelect | replace => .insertions
  | update => .updates

/-- The states that an outline describes as far as a statement of the kind `k` goes: collections of the
right kinds that hold its texts; a limit that is not too long to be written, or entries with its texts. -/
structure State.Outlined (s : State) (k : StatementKind) (o : Outline) : Prop where
  tables : s.current.tables = .dict (o.tables.map fun t => (.text t.1, .text t.2))
  fields : flatten s.current.fields = .ok (o.fields.map .text)
  predicates : flatten s.current.predicates = .ok (o.predicates.map .text)
  joins : s.current.joins = .list (o.joins.map JoinOutline.value)
  groups : s.current.groups = .list (o.groups.map .text)
  orders : s.current.orders = .list (o.orders.map .text)
  limit : s.limit = .int o.limit
  limitWithin : k.member = .limit → withinDigitLimit o.limit = true
  insertions : k.member = .insertions →
    ∃ es, s.insertions = .dict es ∧ es.mapM shownEntry = .ok o.insertions
  updates : k.member = .updates → ∃ es, s.updates = .dict es ∧ es.mapM shownEntry = .ok o.updates

/-! ## Clauses -/

theorem joinedList_map_text (sep : String) (ss : List String) :
    Value.joinedList sep (ss.map .text) = .ok (sep.intercalate ss) := by
  rw [Value.joinedList, Value.texts_map_text, map_ok]
  rfl

theorem fieldsClause_eq {v : Value} {fs : List String} (h : flatten v = .ok (fs.map .text)) :
    fieldsClause v = .ok (if fs = [] then "*" else ",".intercalate fs) := by
  rw [fieldsClause, h, ok_bind]
  cases fs with
  | nil => rfl
  | cons f fs => exact joinedList_map_text "," (f :: fs)

theorem tablesClause_eq (ts : List (String × String)) :
    tablesClause (.dict (ts.map fun t => (.text t.1, .text t.2))) =
      .ok (",".intercalate (ts.map fun t => "(" ++ t.2 ++ " AS " ++ t.1 ++ ")")) := by
  have hitems : (ts.map fun t => ((.text t.1 : Value), (.text t.2 : Value))).mapM tableItem =
      .ok (ts.map fun t => "(" ++ t.2 ++ " AS " ++ t.1 ++ ")") := by
    rw [List.mapM_map]
    exact mapM_eq_ok fun t _ => rfl
  rw [tablesClause, Value.pairs, ok_bind, hitems]
  rfl

theorem targetTable_eq (ts : List (String × String)) :
    targetTable (.dict (ts.map fun t => (.text t.1, .text t.2))) =
      .ok (.text ((ts.map Prod.snd).headD "")) := by
  cases ts <;> rfl

theorem orElse_text (s t : String) : (Value.text s).orElse (.text t) = .text (orOther s t) := by
  by_cases h : s = "" <;> simp [Value.orElse, orOther, h]

/-- The joins that a join outline describes: dictionaries with its texts under the four names. -/
structure JoinOutline.Describes (o : JoinOutline) (j : Value) : Prop where
  table : j.entry "table" = .ok (.text o.table)
  name : j.entry "alias" = .ok (.text o.name)
  condition : j.entry "condition" = .ok (.text o.condition)
  type : j.entry "type" = .ok (.text o.type)

theorem JoinOutline.describes_value (o : JoinOutline) : o.Describes o.value := ⟨rfl, rfl, rfl, rfl⟩

theorem Value.lookup_of_entry {v w : Value} {name : String} (h : v.entry name = .ok w) :
    v.entry? name = .ok w := by
  unfold entry at h
  split at h
  · split at h
    · rename_i hget
      cases h
      exact congrArg (fun o : Option Value => Except.ok (o.getD null)) hget
    · cases h
  all_goals cases h

/-- A join is written as its outline says. -/
theorem JoinOutline.Describes.joinItem_eq {o : JoinOutline} {j : Value} (h : o.Describes j) :
    joinItem j = .ok o.text := by
  unfold joinItem
  simp only [h.table, Value.lookup_of_entry h.name, Value.lookup_of_entry h.condition,
    Value.lookup_of_entry h.type, ok_bind]
  rw [defaultJoinType, JoinType.toValue, orElse_text, orElse_text, orElse_text, orOther_empty]
  simp only [Value.upper, Value.shown_text, ok_bind, Value.truthy_text, JoinOutline.text]
  by_cases h : o.condition = ""
  · simp [h, JoinType.word]
  · have hne : (o.condition != "") = true := bne_iff_ne.mpr h
    simp only [hne, if_true, if_neg h, String.append_assoc]
    rfl

/-- A list of joins, each with its outline. -/
def JoinOutline.DescribeAll (os : List JoinOutline) (v : Value) : Prop :=
  ∃ js, v = .list js ∧ List.Forall₂ JoinOutline.Describes os js

theorem JoinOutline.describeAll_values (os : List JoinOutline) :
    DescribeAll os (.list (os.map JoinOutline.value)) := by
  refine ⟨_, rfl, ?_⟩
  induction os with
  | nil => exact .nil
  | cons o os ih => exact .cons o.describes_value ih

/-- Joins are written as their outlines say. -/
theorem joinsClause_of_describeAll {os : List JoinOutline} {v : Value}
    (h : JoinOutline.DescribeAll os v) :
    joinsClause v = .ok ("".intercalate (os.map JoinOutline.text)) := by
  obtain ⟨js, rfl, hjs⟩ := h
  have hitems : js.mapM joinItem = .ok (os.map JoinOutline.text) := by
    induction hjs with
    | nil => rfl
    | cons hj _ ih => rw [List.mapM_cons, hj.joinItem_eq, ok_bind, ih]; rfl
  rw [joinsClause, Value.elements, Value.elements?]
  simp only [ok_bind, hitems]
  rfl

theorem joinsClause_eq (js : List JoinOutline) :
    joinsClause (.list (js.map JoinOutline.value)) = .ok ("".intercalate (js.map JoinOutline.text)) :=
  joinsClause_of_describeAll (JoinOutline.describeAll_values js)

theorem whereClause_eq {v : Value} {ps : List String} (h : flatten v = .ok (ps.map .text)) :
    whereClause v = .ok (if ps = [] then "" else "WHERE " ++ " AND ".intercalate ps) := by
  rw [whereClause, h, ok_bind]
  cases ps with
  | nil => rfl
  | cons p ps =>
    have hj := joinedList_map_text " AND " (p :: ps)
    rw [List.map_cons] at hj ⊢
    simp only [hj, ok_bind]
    rfl

theorem joined_map_text (sep : String) (ss : List String) :
    (Value.list (ss.map .text)).joined sep = .ok (sep.intercalate ss) :=
  joinedList_map_text sep ss

theorem truthy_map_text (ss : List String) : (Value.list (ss.map .text)).truthy = !ss.isEmpty := by
  cases ss <;> rfl

theorem groupClause_eq (gs : List String) :
    groupClause (.list (gs.map .text)) =
      .ok (if gs = [] then "" else "GROUP BY " ++ ",".intercalate gs) := by
  rw [groupClause, truthy_map_text, joined_map_text]
  cases gs <;> rfl

theorem orderClause_eq (os : List String) :
    orderClause (.list (os.map .text)) =
      .ok (if os = [] then "" else "ORDER BY " ++ ",".intercalate os) := by
  rw [orderClause, truthy_map_text, joined_map_text]
  cases os <;> rfl

theorem limitClause_eq {n : Int} (h : withinDigitLimit n = true) :
    limitClause (.int n) = .ok (if 0 < n then "LIMIT " ++ integerText n else "") := by
  have hn : signedText n = .ok (integerText n) := (signedText_eq_ok_iff n _).mpr ⟨h, rfl⟩
  rw [limitClause, Value.isPositive, ok_bind]
  by_cases hpos : 0 < n <;> simp [hpos, Value.toInteger, hn]

/-! ## Entries -/

theorem mapM_shownEntry {es : List (Value × Value)} {ws : List (String × String)}
    (h : es.mapM shownEntry = .ok ws) :
    (es.map Prod.fst).mapM Value.shown = .ok (ws.map Prod.fst) ∧
      (es.map Prod.snd).mapM Value.shown = .ok (ws.map Prod.snd) ∧
      es.mapM assignmentItem = .ok (ws.map fun w => w.1 ++ " = " ++ w.2) := by
  induction es generalizing ws with
  | nil => cases h; exact ⟨rfl, rfl, rfl⟩
  | cons e es ih =>
    rw [List.mapM_cons] at h
    obtain ⟨w, hw, h⟩ := bind_eq_ok_iff.mp h
    obtain ⟨vs, hvs, h⟩ := bind_eq_ok_iff.mp h
    cases h
    obtain ⟨name, hname, hw⟩ := bind_eq_ok_iff.mp hw
    obtain ⟨value, hvalue, hw⟩ := bind_eq_ok_iff.mp hw
    cases hw
    obtain ⟨hnames, hvalues, hitems⟩ := ih hvs
    have hitem : assignmentItem e = .ok (name ++ " = " ++ value) := by
      rw [assignmentItem, hname, hvalue]; rfl
    refine ⟨?_, ?_, ?_⟩
    · rw [List.map_cons, List.mapM_cons, hname, hnames]; rfl
    · rw [List.map_cons, List.mapM_cons, hvalue, hvalues]; rfl
    · rw [List.mapM_cons, hitem, hitems]; rfl

/-! ## Statements -/

namespace State.Outlined

variable {s : State} {k : StatementKind} {o : Outline}

theorem selectStatement_eq (h : s.Outlined k o) (hk : k.member = .limit) :
    selectStatement s = .ok o.selectText := by
  rw [selectStatement, fieldsClause_eq h.fields, h.tables, tablesClause_eq, h.joins, joinsClause_eq,
    whereClause_eq h.predicates, h.groups, groupClause_eq, h.orders, orderClause_eq, h.limit,
    limitClause_eq (h.limitWithin hk)]
  rfl

theorem valueStatement_eq (h : s.Outlined k o) (hk : k.member = .insertions) (verb : String) :
    valueStatement verb s = .ok (o.valuesText verb) := by
  obtain ⟨es, hes, hshown⟩ := h.insertions hk
  obtain ⟨hnames, hvalues, -⟩ := mapM_shownEntry hshown
  rw [valueStatement, h.tables, targetTable_eq, hes, Value.keys, Value.values]
  simp only [ok_bind, hnames, hvalues]
  rfl

theorem updateStatement_eq (h : s.Outlined k o) (hk : k.member = .updates) :
    updateStatement s = .ok o.updateText := by
  obtain ⟨es, hes, hshown⟩ := h.updates hk
  obtain ⟨-, -, hitems⟩ := mapM_shownEntry hshown
  rw [updateStatement, h.tables, targetTable_eq, hes, Value.pairs, whereClause_eq h.predicates]
  simp only [ok_bind, hitems]
  rfl

theorem deleteStatement_eq (h : s.Outlined k o) (hk : k.member = .limit) :
    deleteStatement s = .ok o.deleteText := by
  rw [deleteStatement, h.tables, targetTable_eq, whereClause_eq h.predicates, h.limit,
    limitClause_eq (h.limitWithin hk)]
  rfl

/-- A state is written as its outline says, whatever the kind of the statement. -/
theorem render_eq (h : s.Outlined k o) : k.render s = .ok (o.text k) := by
  cases k with
  | select => exact h.selectStatement_eq rfl
  | insert | insertSelect => exact h.valueStatement_eq rfl "INSERT"
  | replace => exact h.valueStatement_eq rfl "REPLACE"
  | update => exact h.updateStatement_eq rfl
  | delete => exact h.deleteStatement_eq rfl

end State.Outlined

/-- Joins count only as they are written. -/
theorem StatementKind.render_joins (k : StatementKind) {s : State} {v : Value}
    (h : joinsClause v = joinsClause s.current.joins) :
    k.render { s with current := { s.current with joins := v } } = k.render s := by
  cases k with
  | select =>
    show selectStatement _ = selectStatement s
    unfold selectStatement
    simp only [h]
  | insert | insertSelect | replace | update | delete => rfl

end SqlDraft
