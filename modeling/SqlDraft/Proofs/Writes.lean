import SqlDraft.Proofs.Reuse

/-!
# What a call writes

A call writes at most one member of the state, or one legacy collection, or clears them all. Everything else stays
as it is, also when the call fails.

* `Call.fragment?`: the calls that add a fragment to a collection.
* `Call.Writes`, `Call.WritesLegacy`: what a call may write, and where.
* `Query.Leaves`: the states that a call may leave.
* `Query.leaves_step`: every call leaves one of these.
-/

namespace SqlDraft

/-! ## What is written -/

namespace Call

/-- The fragment that a call adds, with the collection it is added to. -/
def fragment? : Call → Option (Slot × Value)
  | addFields fragment => some (.fields, fragment)
  | addPredicates fragment => some (.predicates, fragment)
  | addOrder fragment => some (.orders, fragment)
  | addGroup fragment => some (.groups, fragment)
  | _ => none

/-- What a call may write to a member. Of tables, limits and assigned values only the member is told. -/
inductive Writes (q : Query) : Call → Member → Value → Prop
  | table (table short v : Value) : Writes q (.addTable table short) (.slot .tables) v
  | deletion (table v : Value) : Writes q (.setDelete table) (.slot .tables) v
  /-- A fragment that counts as present is added to the end. -/
  | fragment {c : Call} {s : Slot} {fragment v : Value} (hc : c.fragment? = some (s, fragment))
      (htruthy : fragment.truthy = true) (h : (q.state.current.get s).append fragment = .ok v) :
      Writes q c (.slot s) v
  | limit (limit v : Value) : Writes q (.setLimit limit) .limit v
  | assignment (a : Assignment) (fields values : Value) (raw : Bool) (v : Value) :
      Writes q (.assign a fields values raw) a.member v
  /-- A member is set to any value. -/
  | set (m : Member) (v : Value) : Writes q (.setMember m v) m v

/-- What a call may write to a legacy collection. -/
inductive WritesLegacy (q : Query) : Call → Slot → Value → Prop
  | join (table short condition type v : Value) :
      WritesLegacy q (.addJoin table short condition type) .joins v
  | append {t : Slot} {v w : Value} (h : (q.state.legacy.get t).append v = .ok w) :
      WritesLegacy q (.appendLegacy t v) t w
  | set (t : Slot) (v : Value) : WritesLegacy q (.setLegacy t v) t v

end Call

namespace Query

/-- The states that a call may leave. -/
inductive Leaves (q : Query) (c : Call) : State → Prop
  | same : Leaves q c q.state
  | cleared (hc : c.clears = true) : Leaves q c .empty
  | member {m : Member} {v : Value} (h : c.Writes q m v) : Leaves q c (q.state.set m v)
  | legacy {t : Slot} {v : Value} (h : c.WritesLegacy q t v) : Leaves q c (q.state.setLegacy t v)

variable {q q' : Query} {c : Call}

/-! ## Call by call -/

theorem leaves_of_update {r : Except Fault Query} (h : ∀ q', r = .ok q' → q.Leaves c q'.state) :
    q.Leaves c (Effect.ofUpdate q r).query.state := by
  cases r with
  | ok q' => exact h q' rfl
  | error f => exact .same

theorem state_of_addTable {table short : Value} (h : q.addTable table short = .ok q') :
    q'.state = q.state ∨ ∃ v, q'.state = q.state.set (.slot .tables) v := by
  unfold addTable at h
  split at h
  · obtain ⟨name, -, h⟩ := bind_eq_ok_iff.mp h
    obtain ⟨tables, -, h⟩ := bind_eq_ok_iff.mp h
    cases h
    exact .inr ⟨tables, rfl⟩
  · cases h
    exact .inl rfl

theorem leaves_of_addFragment {s : Slot} {fragment : Value} (hc : c.fragment? = some (s, fragment))
    (h : q.addFragment s fragment = .ok q') : q.Leaves c q'.state := by
  unfold addFragment at h
  split at h
  · rename_i htruthy
    obtain ⟨fragments, hfragments, h⟩ := bind_eq_ok_iff.mp h
    cases h
    exact .member (.fragment hc htruthy hfragments)
  · cases h
    exact .same

theorem leaves_of_setDelete {table : Value} (h : q.setDelete table = .ok q') :
    q.Leaves (.setDelete table) q'.state := by
  obtain ⟨r, hr, h⟩ := bind_eq_ok_iff.mp h
  cases h
  show q.Leaves _ r.state
  rcases state_of_addTable hr with hsame | ⟨v, hset⟩
  · exact hsame ▸ .same
  · exact hset ▸ .member (.deletion table v)

theorem leaves_of_addJoin {table short condition type : Value}
    (h : q.addJoin table short condition type = .ok q') :
    q.Leaves (.addJoin table short condition type) q'.state := by
  unfold addJoin at h
  split at h
  · obtain ⟨name, -, h⟩ := bind_eq_ok_iff.mp h
    cases h
    exact .legacy (.join table short condition type _)
  · cases h

theorem leaves_limitEffect (q : Query) (limit : Value) :
    q.Leaves (.setLimit limit) (q.limitEffect limit).query.state := by
  unfold limitEffect
  split
  · rename_i q' notices h
    obtain ⟨n, -, h⟩ := bind_eq_ok_iff.mp h
    split at h <;> cases h
    · exact .member (.limit limit _)
    · exact .same
  · exact .same

/-- Values that were set before a fault stay in the member. -/
theorem leaves_assignEffect (q : Query) (a : Assignment) (fields values : Value) (raw : Bool) :
    q.Leaves (.assign a fields values raw) (q.assignEffect a fields values raw).query.state := by
  unfold assignEffect assign
  dsimp only
  split
  · exact .same
  · exact .same
  · split <;> exact .member (.assignment a fields values raw _)

theorem leaves_of_consumed {clears : Bool} (hc : clears = true → c.clears = true) :
    q.Leaves c (q.consumed clears).state := by
  cases clears with
  | true => exact .cleared (hc rfl)
  | false => exact .same

theorem leaves_on (p : Preparation) {clears : Bool} (hc : clears = true → c.clears = true) :
    q.Leaves c (p.on q clears).query.state := by
  rw [p.query_on]
  split
  · exact leaves_of_consumed hc
  · exact .same

theorem leaves_execute (given : Option String) {clears : Bool} (reply : Reply)
    (hc : clears = true → c.clears = true) : q.Leaves c (q.execute given clears reply).query.state := by
  cases h : given.or q.connection with
  | none =>
    rw [execute_of_unconnected h]
    exact .same
  | some connection =>
    cases hr : q.rendered .own with
    | error f =>
      rw [(execute_of_fault h hr clears reply).2.2]
      exact .same
    | ok sql =>
      rw [execute_of_text h hr, send_query]
      exact leaves_on .own hc

/-- **One call.** Whether it succeeds or not, a call leaves the state as it was but for what it writes. -/
theorem leaves_step (q : Query) (c : Call) : q.Leaves c (q.step c).query.state := by
  cases c with
  | addTable table short =>
    refine leaves_of_update fun q' h => ?_
    rcases state_of_addTable h with hsame | ⟨v, hset⟩
    · exact hsame ▸ .same
    · exact hset ▸ .member (.table table short v)
  | addFields | addPredicates | addOrder | addGroup =>
    exact leaves_of_update fun _ => leaves_of_addFragment rfl
  | setLimit limit => exact q.leaves_limitEffect limit
  | addJoin => exact leaves_of_update fun _ => leaves_of_addJoin
  | assign a fields values raw => exact q.leaves_assignEffect a fields values raw
  | setDelete => exact leaves_of_update fun _ => leaves_of_setDelete
  | appendLegacy t v =>
    refine leaves_of_update fun q' h => ?_
    obtain ⟨w, hw, h⟩ := bind_eq_ok_iff.mp h
    cases h
    exact .legacy (.append hw)
  | setMember m v => exact .member (.set m v)
  | setLegacy t v => exact .legacy (.set t v)
  | clear => exact .cleared rfl
  | prepare clears => exact leaves_on (c := .prepare clears) .own id
  | prepareAs k clears => exact leaves_on (c := .prepareAs k clears) (.of k) id
  | execute | loadEntries | loadFirst | loadCell | loadColumn => exact leaves_execute _ _ fun h => h
  | now | currentMoment | dateDifference | dateAddition | setKind | setOther | describe | invalid =>
    exact .same

end Query

end SqlDraft
