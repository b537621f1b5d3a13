import SqlDraft.Value.Entry

/-!
# The state of a query

A query collects fragments under six names, twice: once under the current names and once under the
older ones. A limit and the assigned values of a statement come with them. Every member can hold any
value, since callers may put there what they like.

* `Slot`, `Collections`: the six collections.
* `State`: the current and the legacy collections, the limit, and the assignments.
* `State.reconciled`: a current collection that is empty is filled from its legacy counterpart.
* `State.empty`: the state of a new query.
* `Changes`, `State.changes`: the members that differ from those of a new query.
-/

namespace SqlDraft

/-- The names of the collections. -/
inductive Slot
  | tables | fields | predicates | joins | groups | orders
  deriving DecidableEq

/-- All collections. -/
def Slot.all : List Slot := [.tables, .fields, .predicates, .joins, .groups, .orders]

/-- The contents of the six collections. -/
structure Collections where
  /-- Raw table names by alias. -/
  tables : Value
  /-- Expressions of the select list; an element may be a group of expressions. -/
  fields : Value
  /-- Predicates that must all hold; an element may be a group of predicates. -/
  predicates : Value
  /-- Joins, each with its table, alias, condition and type. -/
  joins : Value
  groups : Value
  orders : Value

namespace Collections

/-- No fragments. -/
def empty : Collections := ⟨.dict [], .list [], .list [], .list [], .list [], .list []⟩

/-- The collection of a name. -/
def get (c : Collections) : Slot → Value
  | .tables => c.tables
  | .fields => c.fields
  | .predicates => c.predicates
  | .joins => c.joins
  | .groups => c.groups
  | .orders => c.orders

/-- Replaces the collection of a name. -/
def set (c : Collections) (s : Slot) (v : Value) : Collections :=
  match s with
  | .tables => { c with tables := v }
  | .fields => { c with fields := v }
  | .predicates => { c with predicates := v }
  | .joins => { c with joins := v }
  | .groups => { c with groups := v }
  | .orders => { c with orders := v }

@[ext] theorem ext_get {c d : Collections} (h : ∀ s, c.get s = d.get s) : c = d := by
  obtain ⟨_, _, _, _, _, _⟩ := c
  obtain ⟨_, _, _, _, _, _⟩ := d
  simp only [mk.injEq]
  exact ⟨h .tables, h .fields, h .predicates, h .joins, h .groups, h .orders⟩

theorem get_set (c : Collections) (s t : Slot) (v : Value) :
    (c.set s v).get t = if t = s then v else c.get t := by
  cases s <;> cases t <;> rfl

/-- A legacy collection stands in for a current one that is empty. -/
def pick (current legacy : Value) : Value :=
  if legacy.truthy && !current.truthy then legacy else current

/-- The current collections, filled up from the legacy ones. -/
def merge (current legacy : Collections) : Collections :=
  ⟨pick current.tables legacy.tables, pick current.fields legacy.fields,
    pick current.predicates legacy.predicates, pick current.joins legacy.joins,
    pick current.groups legacy.groups, pick current.orders legacy.orders⟩

@[simp] theorem get_merge (current legacy : Collections) (s : Slot) :
    (merge current legacy).get s = pick (current.get s) (legacy.get s) := by
  cases s <;> rfl

theorem pick_pick (current legacy : Value) : pick (pick current legacy) legacy = pick current legacy := by
  cases hl : legacy.truthy <;> cases hc : current.truthy <;> simp [pick, hl, hc]

end Collections

/-- Everything a query has collected. -/
structure State where
  current : Collections
  /-- The row limit; zero for none. -/
  limit : Value
  /-- Values by field of an inserting statement. -/
  insertions : Value
  /-- Values by field of an updating statement. -/
  updates : Value
  legacy : Collections

namespace State

/-- The state of a new query. -/
def empty : State := ⟨.empty, .int 0, .dict [], .dict [], .empty⟩

/-- The state with its current collections filled up from the legacy ones. -/
def reconciled (s : State) : State := { s with current := s.current.merge s.legacy }

@[simp] theorem reconciled_reconciled (s : State) : s.reconciled.reconciled = s.reconciled := by
  simp only [reconciled, mk.injEq, and_true]
  ext t
  simp [Collections.pick_pick]

end State

/-! ## Members -/

/-- The members of a state outside its legacy part. -/
inductive Member
  | slot (s : Slot)
  | limit
  | insertions
  | updates
  deriving DecidableEq

namespace Member

/-- All members. -/
def all : List Member := Slot.all.map slot ++ [limit, insertions, updates]

end Member

namespace State

/-- The contents of a member. -/
def get (s : State) : Member → Value
  | .slot t => s.current.get t
  | .limit => s.limit
  | .insertions => s.insertions
  | .updates => s.updates

/-- Replaces a member. -/
def set (s : State) (m : Member) (v : Value) : State :=
  match m with
  | .slot t => { s with current := s.current.set t v }
  | .limit => { s with limit := v }
  | .insertions => { s with insertions := v }
  | .updates => { s with updates := v }

/-- Replaces a legacy collection. -/
def setLegacy (s : State) (t : Slot) (v : Value) : State := { s with legacy := s.legacy.set t v }

theorem get_set (s : State) (m n : Member) (v : Value) :
    (s.set m v).get n = if n = m then v else s.get n := by
  cases m <;> cases n <;> simp [set, get, Collections.get_set]

end State

/-! ## Differences from a new query -/

/-- An empty dictionary. -/
def isEmptyDict : Value → Bool
  | .dict [] => true
  | _ => false

/-- An empty list. -/
def isEmptyList : Value → Bool
  | .list [] => true
  | _ => false

/-- Whether a value equals zero. A signaling decimal cannot be compared. -/
def equalsZero : Value → Except Fault Bool
  | .bool b => .ok !b
  | .int i => .ok (i == 0)
  | .float x => .ok x.isZero
  | .decimal (.nan _ true _) => .error .undefinedOrder
  | .decimal x => .ok x.isZero
  | _ => .ok false

/-- Whether a collection equals that of a new query. -/
def Slot.isInitial (s : Slot) (v : Value) : Bool :=
  match s with
  | .tables => isEmptyDict v
  | _ => isEmptyList v

/-- Whether a member equals that of a new query. -/
def Member.isInitial (m : Member) (v : Value) : Except Fault Bool :=
  match m with
  | .slot s => .ok (s.isInitial v)
  | .limit => equalsZero v
  | .insertions | .updates => .ok (isEmptyDict v)

/-- The members of a state that differ from those of a new query. -/
structure Changes where
  members : List (Member × Value)
  legacy : List (Slot × Value)

namespace State

/-- The members outside the legacy part that differ from those of a new query. -/
def changedMembers (s : State) : Except Fault (List (Member × Value)) :=
  (Member.all.map fun m => (m, s.get m)).filterM fun e => return !(← e.1.isInitial e.2)

/-- The legacy collections that differ from those of a new query. -/
def changedLegacy (s : State) : List (Slot × Value) :=
  (Slot.all.map fun t => (t, s.legacy.get t)).filter fun e => !e.1.isInitial e.2

/-- All members that differ from those of a new query. -/
def changes (s : State) : Except Fault Changes := do
  return ⟨← s.changedMembers, s.changedLegacy⟩

/-- Whether a state equals that of a new query. -/
def isInitial (s : State) : Except Fault Bool := do
  let c ← s.changes
  return c.members.isEmpty && c.legacy.isEmpty

end State

end SqlDraft
