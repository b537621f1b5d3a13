import SqlDraft.Calendar.London
import SqlDraft.Settings.Basic
import SqlDraft.Sql.Execution

/-!
# Sessions

A session makes a query and then calls it, any call after any other.

* `PrefixSource`, `Query.create`: where a new query finds the prefix of its table names.
* `Call`: what a query can be asked to do.
* `Answer`: what a call answers.
* `Query.step`: the effect of a call.
* `Query.run`: the effects of several calls, each on the query that the one before left.
-/

namespace SqlDraft

/-! ## Making a query -/

/-- Where a query without a prefix of its own looks for one. -/
inductive PrefixSource
  | nothing
  /-- A value that is asked for an entry. -/
  | entries (v : Value)
  | settings (s : Settings)

namespace PrefixSource

/-- The key of the prefix. -/
def key : String := "dbprefix"

/-- The prefix that is found. -/
def lookup : PrefixSource → Except Fault Value
  | nothing => .ok (.text "")
  | entries v => (v.entry? key).map fun p => p.orElse (.text "")
  | settings s => (s.get (.text key) (.text "")).map fun p => p.orElse (.text "")

end PrefixSource

/-- A new query. A prefix that does not count as present is looked up. -/
def Query.create (tablePrefix : Value) (source : PrefixSource) (connection : Option String) :
    Except Fault Query := do
  if tablePrefix.truthy then .ok (blank tablePrefix connection)
  else .ok (blank (← source.lookup) connection)

/-! ## Calls -/

/-- What a query can be asked to do. -/
inductive Call
  | clear
  | addTable (table short : Value)
  | addFields (fragment : Value)
  | addPredicates (fragment : Value)
  | addOrder (fragment : Value)
  | addGroup (fragment : Value)
  | setLimit (limit : Value)
  | addJoin (table short condition type : Value)
  | assign (a : Assignment) (fields values : Value) (raw : Bool)
  | setDelete (table : Value)
  | prepare (clears : Bool)
  | prepareAs (k : StatementKind) (clears : Bool)
  | now
  | currentMoment
  | dateDifference (first second : Value)
  | dateAddition (date interval unit : Value)
  /-- The kind of statement is replaced as it is, without a check. -/
  | setKind (k : Value)
  | setMember (m : Member) (v : Value)
  | setLegacy (s : Slot) (v : Value)
  /-- A member that no statement reads is set. -/
  | setOther (v : Value)
  | appendLegacy (s : Slot) (v : Value)
  | describe
  | execute (given : Option String) (clears : Bool) (reply : Reply)
  | loadEntries (given : Option String) (count : Value) (reply : Reply)
  | loadFirst (given : Option String) (reply : Reply)
  | loadCell (given : Option String) (reply : Reply)
  | loadColumn (given : Option String) (reply : Reply)
  /-- A call that cannot be made, since its arguments cannot be read or do not fit. -/
  | invalid (f : Fault)

/-- What a call answers. -/
inductive Answer
  | value (v : Value)
  | table (t : Table)
  /-- The prefix, the tokens of the server's functions, and whether there is a connection. -/
  | description (tablePrefix : Value) (tokens : List String) (connected : Bool)

namespace Answer

/-- The answer of a call that has nothing to say. -/
def none : Answer := .value .null

/-- A text as an answer. -/
def text (s : String) : Answer := .value (.text s)

end Answer

/-! ## Steps -/

namespace Effect

/-- The effect with its answer wrapped. -/
def answering {α : Type} (f : α → Answer) (e : Effect α) : Effect Answer :=
  ⟨e.query, e.answer.map f, e.notices, e.sent⟩

/-- The effect of a call that answers nothing. -/
def silent (e : Effect Unit) : Effect Answer := e.answering fun _ => .none

end Effect

namespace Query

/-- Sets the limit and tells the log about a limit that was passed over. -/
def limitEffect (q : Query) (limit : Value) : Effect Unit :=
  match q.setLimit limit with
  | .ok (q', notices) => ⟨q', .ok (), notices, []⟩
  | .error f => ⟨q, .error f, [], []⟩

/-- Assigns values and tells the log about values that were passed over. -/
def assignEffect (q : Query) (a : Assignment) (fields values : Value) (raw : Bool) : Effect Unit :=
  let (q', answer, notices) := q.assign a fields values raw
  ⟨q', answer, notices, []⟩

/-- The effect of a call. -/
def step (q : Query) : Call → Effect Answer
  | .clear => (Effect.ofUpdate q (.ok q.clear)).silent
  | .addTable table short => (Effect.ofUpdate q (q.addTable table short)).silent
  | .addFields fragment => (Effect.ofUpdate q (q.addFields fragment)).silent
  | .addPredicates fragment => (Effect.ofUpdate q (q.addPredicates fragment)).silent
  | .addOrder fragment => (Effect.ofUpdate q (q.addOrder fragment)).silent
  | .addGroup fragment => (Effect.ofUpdate q (q.addGroup fragment)).silent
  | .setLimit limit => (q.limitEffect limit).silent
  | .addJoin table short condition type =>
    (Effect.ofUpdate q (q.addJoin table short condition type)).silent
  | .assign a fields values raw => (q.assignEffect a fields values raw).silent
  | .setDelete table => (Effect.ofUpdate q (q.setDelete table)).silent
  | .prepare clears => (q.prepare clears).answering .text
  | .prepareAs k clears => (q.prepareAs k clears).answering .text
  | .now => Effect.ofAnswer q (.ok (.text nowToken))
  | .currentMoment => Effect.ofAnswer q (.ok (.text currentShape))
  | .dateDifference first second =>
    (Effect.ofAnswer q (SqlDraft.dateDifference first second)).answering .text
  | .dateAddition date interval unit =>
    (Effect.ofAnswer q (SqlDraft.dateAddition date interval unit)).answering .text
  | .setKind k => (Effect.ofUpdate q (.ok (q.setKind k))).silent
  | .setMember m v => (Effect.ofUpdate q (.ok (q.setMember m v))).silent
  | .setLegacy s v => (Effect.ofUpdate q (.ok (q.setLegacy s v))).silent
  | .setOther _ => (Effect.ofUpdate q (.ok q)).silent
  | .appendLegacy s v => (Effect.ofUpdate q (q.appendLegacy s v)).silent
  | .describe =>
    Effect.ofAnswer q (.ok (.description q.tablePrefix q.tokens q.connection.isSome))
  | .execute given clears reply => (q.execute given clears reply).answering .table
  | .loadEntries given count reply => (q.loadEntries given count reply).answering .value
  | .loadFirst given reply => (q.loadFirst given reply).answering .value
  | .loadCell given reply => (q.loadCell given reply).answering .value
  | .loadColumn given reply => (q.loadColumn given reply).answering .value
  | .invalid f => Effect.ofAnswer q (.error f)

/-- The effects of calls, one after the other. -/
def run (q : Query) : List Call → List (Effect Answer)
  | [] => []
  | c :: cs =>
    let e := q.step c
    e :: run e.query cs

/-- The query that calls leave. -/
def after (q : Query) (cs : List Call) : Query := cs.foldl (fun q c => (q.step c).query) q

@[simp] theorem run_nil (q : Query) : q.run [] = [] := rfl

@[simp] theorem run_cons (q : Query) (c : Call) (cs : List Call) :
    q.run (c :: cs) = q.step c :: (q.step c).query.run cs := rfl

theorem run_append (q : Query) (cs ds : List Call) :
    q.run (cs ++ ds) = q.run cs ++ (q.after cs).run ds := by
  induction cs generalizing q with
  | nil => rfl
  | cons c cs ih => simp [ih, after]

@[simp] theorem length_run (q : Query) (cs : List Call) : (q.run cs).length = cs.length := by
  induction cs generalizing q with
  | nil => rfl
  | cons c cs ih => simp [ih]

end Query

end SqlDraft
