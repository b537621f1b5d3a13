import SqlDraft.Proofs.Outcome
import SqlDraft.Sql.Session

/-!
# Consuming a query

A query is consumed by preparing it, or by sending its statement to a connection. Its members can hold
anything, so the statement may not come about.

* `Preparation`, `Query.rendered`: the ways to write a statement, and the statement.
* `Preparation.query_on`: a statement that does not come about leaves the query as it was.
* `Dispatch`: the ways to send a statement off.
* `Effect.arriving_eq_iff`: when a statement arrives as it was sent.
* `Query.execute_of_unconnected`, `execute_of_fault`, `execute_of_text`: what one execution does, by the
  point it reaches.
* `Query.all_or_nothing`: all of this for every query, every preparation and every dispatch.
-/

namespace SqlDraft

/-! ## Preparing -/

/-- The ways to write the statement of a query: of its own kind, or of a given one. -/
inductive Preparation
  | own
  | of (k : StatementKind)

namespace Query

/-- The statement that a preparation writes. -/
def rendered (q : Query) : Preparation → Except Fault String
  | .own => do q.statement (← StatementKind.ofValue q.kind)
  | .of k => q.statement k

end Query

namespace Preparation

/-- A preparation of a query. -/
def on (p : Preparation) (q : Query) (clears : Bool) : Effect String :=
  match p with
  | own => q.prepare clears
  | of k => q.prepareAs k clears

theorem answer_on (p : Preparation) (q : Query) (clears : Bool) :
    (p.on q clears).answer = q.rendered p := by
  have hk (k : StatementKind) : (q.prepareAs k clears).answer = q.statement k := by
    unfold Query.prepareAs
    split <;> simp_all
  cases p with
  | own =>
    show (q.prepare clears).answer = _
    unfold Query.prepare Query.rendered
    cases StatementKind.ofValue q.kind with
    | ok k => exact hk k
    | error f => rfl
  | of k => exact hk k

theorem query_on (p : Preparation) (q : Query) (clears : Bool) :
    (p.on q clears).query =
      match q.rendered p with
      | .ok _ => q.consumed clears
      | .error _ => q := by
  cases p with
  | own =>
    show (q.prepare clears).query = _
    unfold Query.prepare Query.rendered
    cases StatementKind.ofValue q.kind with
    | ok k => exact q.prepareAs_query k clears
    | error f => rfl
  | of k => exact q.prepareAs_query k clears

theorem query_on_of_fault {p : Preparation} {q : Query} {f : Fault} (h : q.rendered p = .error f)
    (clears : Bool) : (p.on q clears).query = q := by
  rw [query_on, h]

theorem query_on_of_text {p : Preparation} {q : Query} {sql : String} (h : q.rendered p = .ok sql)
    (clears : Bool) : (p.on q clears).query = q.consumed clears := by
  rw [query_on, h]

end Preparation

/-! ## Sending -/

/-- A statement that is sent arrives as it is exactly if the database layer makes no other text of it. -/
theorem Effect.arriving_eq_iff {α : Type} {e : Effect α} {connection sql : String}
    (h : e.sent = [(connection, sql)]) {layer : String → String} :
    e.arriving layer = [(connection, sql)] ↔ layer sql = sql := by
  rw [arriving, h, List.map_singleton, List.cons.injEq, Prod.mk.injEq]
  simp only [true_and, and_true]

namespace Query

variable {q : Query} {given : Option String} {connection : String}

@[simp] theorem send_query (reply : Reply) (prepared : Effect String) (sql : String) :
    (send connection reply prepared sql).query = prepared.query := by
  cases reply <;> rfl

@[simp] theorem send_sent (reply : Reply) (prepared : Effect String) (sql : String) :
    (send connection reply prepared sql).sent = [(connection, sql)] := by
  cases reply <;> rfl

theorem execute_of_unconnected (h : given.or q.connection = none) (clears : Bool) (reply : Reply) :
    q.execute given clears reply = ⟨q, .error .noConnection, [], []⟩ := by
  rw [execute, h]

/-- A statement that does not come about is not sent. -/
theorem execute_of_fault (h : given.or q.connection = some connection) {f : Fault}
    (hf : q.rendered .own = .error f) (clears : Bool) (reply : Reply) :
    (q.execute given clears reply).answer = .error f ∧ (q.execute given clears reply).sent = [] ∧
      (q.execute given clears reply).query = q := by
  have ha := (Preparation.answer_on .own q clears).trans hf
  have hq := Preparation.query_on_of_fault hf clears
  change (q.prepare clears).answer = _ at ha
  rw [execute, h]
  simp only [ha]
  exact ⟨trivial, trivial, hq⟩

/-- A statement that comes about is sent, after the query was prepared. -/
theorem execute_of_text (h : given.or q.connection = some connection) {sql : String}
    (ht : q.rendered .own = .ok sql) (clears : Bool) (reply : Reply) :
    q.execute given clears reply = send connection reply (q.prepare clears) sql := by
  have ha := (Preparation.answer_on .own q clears).trans ht
  change (q.prepare clears).answer = _ at ha
  rw [execute, h]
  simp only [ha]

end Query

/-! ## Dispatches -/

/-- The ways to send the statement of a query off: to execute it, or to load what comes back in one of
its views. -/
inductive Dispatch
  | execute (clears : Bool)
  | entries (count : Value)
  | first
  | cell
  | column

namespace Dispatch

/-- Whether the query is cleared; a view always clears it. -/
def clears : Dispatch → Bool
  | execute clears => clears
  | _ => true

/-- The call that sends a statement off. -/
def call (d : Dispatch) (given : Option String) (reply : Reply) : Call :=
  match d with
  | execute clears => .execute given clears reply
  | entries count => .loadEntries given count reply
  | first => .loadFirst given reply
  | cell => .loadCell given reply
  | column => .loadColumn given reply

/-- What is made of the table that comes back. -/
def view (d : Dispatch) (t : Table) : Except Fault Answer :=
  match d with
  | execute _ => .ok (.table t)
  | entries count => ((t.firstEntries count).map .list).map .value
  | first => t.firstEntry.map .value
  | cell => t.firstCell.map .value
  | column => (t.firstColumn.map .list).map .value

/-- Every dispatch executes the query once; the view only looks at the answer. -/
theorem step_call (d : Dispatch) (q : Query) (given : Option String) (reply : Reply) :
    let e := q.execute given d.clears reply
    q.step (d.call given reply) = ⟨e.query, e.answer >>= d.view, e.notices, e.sent⟩ := by
  cases d <;>
    simp only [call, clears, Query.step, Query.loadEntries, Query.loadFirst, Query.loadCell,
      Query.loadColumn, Effect.andThen, Effect.answering] <;>
    cases (q.execute given _ reply).answer <;> rfl

end Dispatch

/-! ## All or nothing -/

namespace Query

/-- **All or nothing.** Whatever the members of a query hold: a preparation that fails leaves the query
as it was; one that succeeds leaves it as it was or, if asked to, cleared, and writes the same statement
either way. A dispatch without a connection or without a statement fails for that reason, sends nothing,
and leaves the query as it was. Any other dispatch sends exactly one statement, that of `prepare`, over
the given connection or else over the query's own, and clears the query if it is to, whatever comes back.
That statement arrives as it was written exactly if the database layer makes no other text of it. -/
theorem all_or_nothing (q : Query) (layer : String → String) :
    q.clear = ⟨q.tablePrefix, q.connection, q.tokens, .empty, .text "select"⟩ ∧
    (∀ (p : Preparation) (clears : Bool),
      (p.on q clears).answer = (p.on q false).answer ∧
      (∀ f, (p.on q clears).answer = .error f → (p.on q clears).query = q) ∧
      ∀ sql, (p.on q clears).answer = .ok sql →
        (p.on q clears).query = if clears then q.clear else q) ∧
    ∀ (d : Dispatch) (given : Option String) (reply : Reply),
      let e := q.step (d.call given reply)
      (given.or q.connection = none →
        e.answer = .error .noConnection ∧ e.sent = [] ∧ e.query = q) ∧
      ∀ connection, given.or q.connection = some connection →
        (∀ f, (q.prepare false).answer = .error f →
          e.answer = .error f ∧ e.sent = [] ∧ e.query = q) ∧
        ∀ sql, (q.prepare false).answer = .ok sql →
          e.sent = [(connection, sql)] ∧
          (e.arriving layer = [(connection, sql)] ↔ layer sql = sql) ∧
          (e.query = if d.clears then q.clear else q) ∧
          e.answer = match reply with
            | .table t => d.view t
            | .misread f => .error f
            | .refusal reason => .error (.refused reason sql)
            | .breakdown reason => .error (.broken reason) := by
  refine ⟨rfl, fun p clears => ⟨?_, fun f h => ?_, fun sql h => ?_⟩, fun d given reply => ⟨fun h => ?_,
    fun connection h => ⟨fun f hf => ?_, fun sql ht => ?_⟩⟩⟩
  · rw [p.answer_on, p.answer_on]
  · exact p.query_on_of_fault (p.answer_on q clears ▸ h) clears
  · exact p.query_on_of_text (p.answer_on q clears ▸ h) clears
  · rw [d.step_call, execute_of_unconnected h]
    exact ⟨rfl, rfl, rfl⟩
  · have hr := (Preparation.answer_on .own q false).symm.trans hf
    obtain ⟨ha, hs, hq⟩ := execute_of_fault h hr d.clears reply
    rw [d.step_call]
    exact ⟨by rw [ha, error_bind], hs, hq⟩
  · have hr := (Preparation.answer_on .own q false).symm.trans ht
    have hq := Preparation.query_on_of_text hr d.clears
    rw [d.step_call, execute_of_text h hr]
    refine ⟨send_sent .., Effect.arriving_eq_iff (send_sent ..), (send_query ..).trans hq, ?_⟩
    cases reply <;> rfl

/-- A refused view of a query that can be written. -/
theorem all_or_nothing_refused :
    let q := (blank (.text "") (some "own")).after [.addTable (.text "t") (.text "")]
    (q.prepare false).answer = .ok "SELECT * FROM ((t AS t))     " ∧
      (q.step (.loadCell none (.refusal "no"))).query = q.clear := by
  have ht : ((blank (.text "") (some "own")).after [.addTable (.text "t") (.text "")]
      |>.prepare false).answer = .ok "SELECT * FROM ((t AS t))     " := rfl
  obtain ⟨-, -, hq, -⟩ := (((all_or_nothing _ id).2.2 .cell none (.refusal "no")).2 "own" rfl).2 _ ht
  exact ⟨ht, hq⟩

/-- A database layer that takes a backslash before a colon for a guard drops it from an assigned text. -/
theorem guard_in_text_is_lost :
    let sql := "INSERT INTO t (a) VALUES ('\\:b')"
    let layer := fun s => if s = sql then "INSERT INTO t (a) VALUES (':b')" else s
    let q := (blank (.text "") none).after
      [.addTable (.text "t") (.text ""), .assign .insert (.text "a") (.text "\\:b") false]
    (q.prepare false).answer = .ok sql ∧
      (q.step (.execute (some "explicit") true (.table ⟨["c"], []⟩))).arriving layer =
        [("explicit", "INSERT INTO t (a) VALUES (':b')")] :=
  ⟨rfl, by decide +kernel⟩

end Query

end SqlDraft
