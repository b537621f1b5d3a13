import SqlDraft.Proofs.Consuming

/-!
# Reusing a query

What a query keeps when it is cleared is its prefix, its connection and its tokens. No call changes these,
so a query that was cleared is the query it was when it was made.

* `Query.step_clear`, `after_clear`: clearing after a call, or after a history, is clearing before it.
* `Query.create_clear`: there is nothing to clear on a new query.
* `Call.clears`, `Query.StartsAnew`: the calls that clear a query, and those of them that come through.
* `Query.step_of_startsAnew`: such a call leaves the query cleared.
* `Query.run_after_history`: a query that starts anew cannot be told from a new one.
-/

namespace SqlDraft

/-! ## What no call changes -/

namespace Query

variable {q q' : Query}

theorem clear_eq_of_ofUpdate {r : Except Fault Query} (h : ∀ q', r = .ok q' → q'.clear = q.clear) :
    (Effect.ofUpdate q r).query.clear = q.clear := by
  cases r with
  | ok q' => exact h q' rfl
  | error f => rfl

theorem clear_of_addTable {table short : Value} (h : q.addTable table short = .ok q') :
    q'.clear = q.clear := by
  unfold addTable at h
  split at h
  · obtain ⟨name, -, h⟩ := bind_eq_ok_iff.mp h
    obtain ⟨tables, -, h⟩ := bind_eq_ok_iff.mp h
    cases h; rfl
  · cases h; rfl

theorem clear_of_addFragment {s : Slot} {fragment : Value}
    (h : q.addFragment s fragment = .ok q') : q'.clear = q.clear := by
  unfold addFragment at h
  split at h
  · obtain ⟨fragments, -, h⟩ := bind_eq_ok_iff.mp h
    cases h; rfl
  · cases h; rfl

theorem clear_of_addJoin {table short condition type : Value}
    (h : q.addJoin table short condition type = .ok q') : q'.clear = q.clear := by
  unfold addJoin at h
  split at h
  · obtain ⟨name, -, h⟩ := bind_eq_ok_iff.mp h
    cases h; rfl
  · cases h

theorem clear_of_appendLegacy {s : Slot} {v : Value} (h : q.appendLegacy s v = .ok q') :
    q'.clear = q.clear := by
  obtain ⟨fragments, -, h⟩ := bind_eq_ok_iff.mp h
  cases h; rfl

theorem clear_of_setDelete {table : Value} (h : q.setDelete table = .ok q') :
    q'.clear = q.clear := by
  obtain ⟨r, hr, h⟩ := bind_eq_ok_iff.mp h
  cases h
  exact (clear_of_addTable hr : r.clear = q.clear)

theorem clear_of_setLimit {limit : Value} {notices : List Notice}
    (h : q.setLimit limit = .ok (q', notices)) : q'.clear = q.clear := by
  obtain ⟨n, -, h⟩ := bind_eq_ok_iff.mp h
  split at h <;> cases h <;> rfl

theorem limitEffect_clear (q : Query) (limit : Value) :
    (q.limitEffect limit).query.clear = q.clear := by
  unfold limitEffect
  split
  · rename_i h
    exact clear_of_setLimit h
  · rfl

/-- Values that were set before a fault are members of the state, which is cleared. -/
theorem assignEffect_clear (q : Query) (a : Assignment) (fields values : Value) (raw : Bool) :
    (q.assignEffect a fields values raw).query.clear = q.clear := by
  unfold assignEffect assign
  dsimp only
  split
  · rfl
  · rfl
  · split <;> rfl

theorem consumed_clear (q : Query) (clears : Bool) : (q.consumed clears).clear = q.clear := by
  cases clears <;> rfl

theorem on_clear (p : Preparation) (q : Query) (clears : Bool) :
    (p.on q clears).query.clear = q.clear := by
  rw [p.query_on]
  split
  · exact q.consumed_clear clears
  · rfl

theorem execute_clear (q : Query) (given : Option String) (clears : Bool) (reply : Reply) :
    (q.execute given clears reply).query.clear = q.clear := by
  cases h : given.or q.connection with
  | none => rw [execute_of_unconnected h]
  | some connection =>
    cases hr : q.rendered .own with
    | error f => rw [(execute_of_fault h hr clears reply).2.2]
    | ok sql =>
      rw [execute_of_text h hr, send_query]
      exact on_clear .own q clears

/-- **One call.** No call changes what clearing keeps, whether it succeeds or stops half-way. -/
theorem step_clear (q : Query) (c : Call) : (q.step c).query.clear = q.clear := by
  cases c with
  | addTable => exact clear_eq_of_ofUpdate fun _ => clear_of_addTable
  | addFields | addPredicates | addOrder | addGroup =>
    exact clear_eq_of_ofUpdate fun _ => clear_of_addFragment
  | setLimit => exact limitEffect_clear ..
  | addJoin => exact clear_eq_of_ofUpdate fun _ => clear_of_addJoin
  | assign => exact assignEffect_clear ..
  | setDelete => exact clear_eq_of_ofUpdate fun _ => clear_of_setDelete
  | appendLegacy => exact clear_eq_of_ofUpdate fun _ => clear_of_appendLegacy
  | prepare clears => exact on_clear .own q clears
  | prepareAs k clears => exact on_clear (.of k) q clears
  | execute | loadEntries | loadFirst | loadCell | loadColumn => exact execute_clear ..
  | clear | now | currentMoment | dateDifference | dateAddition | setKind | setMember | setLegacy
  | setOther | describe | invalid => rfl

/-- **A history.** No history changes what clearing keeps. -/
theorem after_clear (q : Query) (cs : List Call) : (q.after cs).clear = q.clear := by
  induction cs generalizing q with
  | nil => rfl
  | cons c cs ih => exact (ih _).trans (q.step_clear c)

theorem after_append (q : Query) (cs ds : List Call) :
    q.after (cs ++ ds) = (q.after cs).after ds := List.foldl_append

theorem create_clear {tablePrefix : Value} {source : PrefixSource} {connection : Option String}
    (h : create tablePrefix source connection = .ok q) : q.clear = q := by
  unfold create at h
  split at h
  · cases h; rfl
  · obtain ⟨p, -, h⟩ := bind_eq_ok_iff.mp h
    cases h; rfl

end Query

/-! ## Starting anew -/

/-- The calls that clear a query when they come through. -/
def Call.clears : Call → Bool
  | .clear => true
  | .prepare clears | .prepareAs _ clears | .execute _ clears _ => clears
  | .loadEntries .. | .loadFirst .. | .loadCell .. | .loadColumn .. => true
  | _ => false

namespace Query

/-- A call that clears the query, and comes through: it has an answer, or its statement reaches a
connection. -/
def StartsAnew (q : Query) (c : Call) : Prop :=
  c.clears = true ∧ ((∃ a, (q.step c).answer = .ok a) ∨ (q.step c).sent ≠ [])

variable {q : Query}

/-- A preparation that has an answer clears the query; it never sends anything. -/
theorem on_of_startsAnew {p : Preparation}
    (h : (∃ a, ((p.on q true).answering .text).answer = .ok a) ∨
      ((p.on q true).answering .text).sent ≠ []) : (p.on q true).query = q.clear := by
  rcases h with ⟨a, ha⟩ | hs
  · obtain ⟨sql, ht, -⟩ := map_eq_ok_iff.mp ha
    exact p.query_on_of_text (p.answer_on q true ▸ ht) true
  · refine absurd ?_ hs
    cases p with
    | own => exact q.prepare_sent true
    | of k => exact q.prepareAs_sent k true

/-- A dispatch that has an answer, or that reached a connection, clears the query: up to the point where
the statement is sent it has neither. -/
theorem dispatch_of_startsAnew {d : Dispatch} {given : Option String} {reply : Reply}
    (hd : d.clears = true) (h : (∃ a, (q.step (d.call given reply)).answer = .ok a) ∨
      (q.step (d.call given reply)).sent ≠ []) : (q.step (d.call given reply)).query = q.clear := by
  rw [d.step_call, hd] at h ⊢
  cases hc : given.or q.connection with
  | none =>
    rw [execute_of_unconnected hc] at h
    rcases h with ⟨a, ha⟩ | hs
    · cases ha
    · exact absurd rfl hs
  | some connection =>
    cases hr : q.rendered .own with
    | error f =>
      obtain ⟨ha, hs, -⟩ := execute_of_fault hc hr true reply
      rcases h with ⟨a, h⟩ | h
      · simp only [ha, error_bind] at h
        cases h
      · exact absurd hs h
    | ok sql =>
      rw [execute_of_text hc hr]
      exact (send_query ..).trans (Preparation.query_on_of_text hr true)

theorem step_of_startsAnew {c : Call} (h : q.StartsAnew c) : (q.step c).query = q.clear := by
  obtain ⟨hc, h⟩ := h
  cases c with
  | clear => rfl
  | prepare clears => cases hc; exact on_of_startsAnew (p := .own) h
  | prepareAs k clears => cases hc; exact on_of_startsAnew (p := .of k) h
  | execute given clears reply => exact dispatch_of_startsAnew (d := .execute clears) hc h
  | loadEntries given count reply => exact dispatch_of_startsAnew (d := .entries count) rfl h
  | loadFirst given reply => exact dispatch_of_startsAnew (d := .first) rfl h
  | loadCell given reply => exact dispatch_of_startsAnew (d := .cell) rfl h
  | loadColumn given reply => exact dispatch_of_startsAnew (d := .column) rfl h
  | _ => cases hc

/-- **Reuse.** After any history on a new query, a call with which it starts anew leaves it exactly as
new: whatever follows has the same effects (answers, notices, statements that are sent, and the query
after each call) as on the query when it was made. -/
theorem run_after_history {tablePrefix : Value} {source : PrefixSource} {connection : Option String}
    {made : Query} (hmade : create tablePrefix source connection = .ok made) (history : List Call)
    {c : Call} (hc : (made.after history).StartsAnew c) (calls : List Call) :
    made.run (history ++ c :: calls) = made.run (history ++ [c]) ++ made.run calls ∧
      made.after (history ++ c :: calls) = made.after calls := by
  have hnew : made.after (history ++ [c]) = made :=
    calc made.after (history ++ [c])
        = ((made.after history).step c).query := after_append ..
      _ = (made.after history).clear := step_of_startsAnew hc
      _ = made.clear := made.after_clear history
      _ = made := create_clear hmade
  rw [show history ++ c :: calls = history ++ [c] ++ calls by simp]
  rw [run_append, hnew, after_append, hnew]
  exact ⟨rfl, rfl⟩

/-- A query whose statement was refused, after an assignment that stopped at its second field. -/
theorem run_after_history_refused :
    let made := blank (.text "p_") (some "db")
    let history : List Call := [.addTable (.text "t") (.text "a"), .setLimit (.int 3),
      .assign .update (.list [.text "x", .list []]) (.list [.int 1, .int 2]) false]
    let calls : List Call := [.addTable (.text "u") (.text ""), .prepare false]
    made.after (history ++ .loadCell none (.refusal "no") :: calls) = made.after calls :=
  (run_after_history (show create (.text "p_") .nothing (some "db") = .ok _ from rfl) _
    ⟨rfl, .inr (by decide +kernel)⟩ _).2

end Query

end SqlDraft
