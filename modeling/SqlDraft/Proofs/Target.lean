import SqlDraft.Proofs.Collecting

/-!
# The table of a statement

A statement that does not select is about a single table: the one under the alias that was added first. An alias
that is used again is pointed to another table and keeps its place, so of the later calls only these count.

* `Outline.text_bare`, `Outline.text_eq_about`: such a statement says nothing about the other tables.
* `Collected.target_eq`: its table, read off the calls.
* `Query.prepared_about_first_alias`: the statement after any calls.
* `tableUnder`: the name that an alias stands for in the end.
* `Query.statements_about_first_alias`: the statements after calls that add tables.
-/

namespace SqlDraft

/-! ## One table -/

namespace Outline

/-- An outline with another table, and no others. -/
def about (o : Outline) (table : String) : Outline := { o with tables := [("", table)] }

/-- An outline with nothing but a table. -/
def bare (table : String) : Outline := ⟨[("", table)], [], [], [], [], [], 0, [], []⟩

theorem text_bare (table : String) :
    (bare table).text .insert = "INSERT INTO " ++ table ++ " () VALUES ()" ∧
      (bare table).text .replace = "REPLACE INTO " ++ table ++ " () VALUES ()" ∧
      (bare table).text .update = "UPDATE " ++ table ++ " SET  " ∧
      (bare table).text .delete = "DELETE FROM " ++ table ++ "  " := by
  have hvalues (verb : String) : (bare table).valuesText verb = verb ++ " INTO " ++ table ++ " () VALUES ()" := by
    show verb ++ " INTO " ++ table ++ " (" ++ "" ++ ") VALUES (" ++ "" ++ ")" = _
    rw [String.append_empty, String.append_empty, String.append_assoc, String.append_assoc]
    rfl
  refine ⟨hvalues "INSERT", hvalues "REPLACE", ?_, ?_⟩
  · show "UPDATE " ++ table ++ " SET " ++ "" ++ " " ++ "" = _
    rw [String.append_empty, String.append_empty, String.append_assoc]
    rfl
  · show "DELETE FROM " ++ table ++ " " ++ "" ++ " " ++ "" = _
    rw [String.append_empty, String.append_empty, String.append_assoc]
    rfl

/-- A statement that does not select says nothing about the other tables. -/
theorem text_eq_about (o : Outline) {k : StatementKind} (hk : k ≠ .select) :
    o.text k = (o.about o.target).text k := by
  cases k with
  | select => exact absurd rfl hk
  | insert | insertSelect | replace | update | delete => rfl

end Outline

/-- The table that calls come to is the one that was added last under the first alias. -/
theorem Collected.target_eq {k : Collected} {t : String × String} {later : List (String × String)}
    (h : k.tables = t :: later) :
    k.outline.target = ((later.filter fun u => u.1 = t.1).getLastD t).2 := by
  have hhead := head?_settled_cons t later
  show ((settled k.tables).map Prod.snd).headD "" = _
  rw [h, List.headD_eq_head?_getD, List.head?_map, hhead]
  rfl

namespace Query

variable {q : Query} {p : String}

/-- After any calls, a statement that does not select is about the table that was added last under the first
alias. -/
theorem prepared_about_first_alias (hq : q.Fresh) (hp : q.tablePrefix = .text p) {cs : List Contribution}
    (hcs : ∀ c ∈ cs, c.Admissible) {t : String × String} {later : List (String × String)}
    (htables : cs.flatMap (Contribution.tables p) = t :: later) {k : StatementKind} (hk : k ≠ .select)
    (hlegible : (Collected.of p cs).Legible k.member) (clears : Bool) :
    ((q.after (cs.map Contribution.call)).prepareAs k clears).answer =
      .ok (((Collected.of p cs).outline.about
        ((later.filter fun u => u.1 = t.1).getLastD t).2).text k) := by
  have hanswer := (Preparation.of k).answer_on (q.after (cs.map Contribution.call)) clears
  have hrendered := q.rendered_holding (w := .of k) hlegible
  rw [← hq.after_eq hp hcs] at hrendered
  refine hanswer.trans (hrendered.trans (congrArg Except.ok ?_))
  rw [← Collected.target_eq (k := .of p cs) htables]
  exact Outline.text_eq_about _ hk

end Query

/-! ## Tables alone -/

/-- The name that an alias stands for after calls with a name and an alias each, if it stood for `name` before.
Calls without a name do not count. -/
def tableUnder (short name : String) (calls : List (String × String)) : String :=
  ((calls.filter fun c => c.1 ≠ "" ∧ orOther c.2 c.1 = short).map Prod.fst).getLastD name

theorem tableUnder_eq_self {short name : String} {calls : List (String × String)}
    (h : ∀ c ∈ calls, c.1 ≠ "" → orOther c.2 c.1 = short → c.1 = name) :
    tableUnder short name calls = name := by
  unfold tableUnder
  cases hlast : ((calls.filter fun c => c.1 ≠ "" ∧ orOther c.2 c.1 = short).map Prod.fst).getLast? with
  | none => rw [List.getLastD_eq_getLast?, hlast]; rfl
  | some last =>
    obtain ⟨c, hc, rfl⟩ := List.mem_map.mp (List.mem_of_getLast? hlast)
    obtain ⟨hmem, hcond⟩ := List.mem_filter.mp hc
    obtain ⟨hne, halias⟩ := of_decide_eq_true hcond
    rw [List.getLastD_eq_getLast?, hlast]
    exact h c hmem hne halias

theorem flatMap_tables_eq (p : String) (calls : List (String × String)) :
    (calls.map fun c => Contribution.table c.1 c.2).flatMap (Contribution.tables p) =
      (calls.filter fun c => c.1 ≠ "").map fun c => (orOther c.2 c.1, p ++ c.1) := by
  induction calls with
  | nil => rfl
  | cons c cs ih =>
    rw [List.map_cons, List.flatMap_cons, ih]
    by_cases h : c.1 = "" <;> simp [Contribution.tables, h]

/-- What is added last under an alias is the table with the name that the alias stands for. -/
theorem last_table_eq (p short name : String) (calls : List (String × String)) :
    ((((calls.filter fun c => c.1 ≠ "").map fun c => (orOther c.2 c.1, p ++ c.1)).filter
      fun u => u.1 = short).getLastD (short, p ++ name)).2 = p ++ tableUnder short name calls := by
  rw [List.filter_map, List.filter_filter, tableUnder, List.getLastD_eq_getLast?, List.getLastD_eq_getLast?,
    List.getLast?_map, List.getLast?_map]
  have hboth : (calls.filter fun c => ((fun u : String × String => decide (u.1 = short)) ∘
      fun c => (orOther c.2 c.1, p ++ c.1)) c && decide (c.1 ≠ "")) =
      calls.filter fun c => c.1 ≠ "" ∧ orOther c.2 c.1 = short := by
    refine List.filter_congr fun c _ => ?_
    rw [Bool.and_comm, Bool.decide_and]
    rfl
  rw [hboth]
  cases (calls.filter fun c => c.1 ≠ "" ∧ orOther c.2 c.1 = short).getLast? <;> rfl

/-- Calls that add tables contribute nothing else. -/
theorem Collected.of_tables (p : String) (calls : List (String × String)) :
    Collected.of p (calls.map fun c => .table c.1 c.2) =
      ⟨(calls.filter fun c => c.1 ≠ "").map fun c => (orOther c.2 c.1, p ++ c.1),
        [], [], [], [], [], [], [], [], []⟩ := by
  have hnothing {β : Type} {f : Contribution → List β} (hf : ∀ name short, f (.table name short) = []) :
      (calls.map fun c => Contribution.table c.1 c.2).flatMap f = [] := by
    refine List.flatMap_eq_nil_iff.mpr fun c hc => ?_
    obtain ⟨e, -, rfl⟩ := List.mem_map.mp hc
    exact hf e.1 e.2
  rw [Collected.of, flatMap_tables_eq]
  congr <;> exact hnothing fun _ _ => rfl

namespace Query

/-- **One table.** Names and aliases are added to a query that was just made or cleared; `name` is the first
name that is not empty. Then every statement that does not select is about the table that its alias stands for
in the end: this name behind the prefix, unless a later call points the alias to another. -/
theorem statements_about_first_alias {q : Query} (hq : q.Fresh) {p : String} (hp : q.tablePrefix = .text p)
    {unnamed : List (String × String)} (hunnamed : ∀ c ∈ unnamed, c.1 = "") {name : String}
    (hname : name ≠ "") (short : String) (later : List (String × String)) (clears : Bool) :
    let q' := q.after ((unnamed ++ (name, short) :: later).map fun c => .addTable (.text c.1) (.text c.2))
    let table := p ++ tableUnder (orOther short name) name later
    (q'.prepareAs .insert clears).answer = .ok ("INSERT INTO " ++ table ++ " () VALUES ()") ∧
      (q'.prepareAs .replace clears).answer = .ok ("REPLACE INTO " ++ table ++ " () VALUES ()") ∧
      (q'.prepareAs .update clears).answer = .ok ("UPDATE " ++ table ++ " SET  ") ∧
      (q'.prepareAs .delete clears).answer = .ok ("DELETE FROM " ++ table ++ "  ") ∧
      ((∀ c ∈ later, c.1 ≠ "" → orOther c.2 c.1 = orOther short name → c.1 = name) →
        table = p ++ name) := by
  intro q' table
  set calls := unnamed ++ (name, short) :: later with hcalls
  set cs := calls.map fun c => Contribution.table c.1 c.2 with hcs
  have hq' : q' = q.after (cs.map Contribution.call) := by
    rw [hcs, List.map_map]
    rfl
  have hadmissible : ∀ c ∈ cs, c.Admissible := by
    intro c hc
    obtain ⟨e, -, rfl⟩ := List.mem_map.mp hc
    trivial
  have hunnamed' : unnamed.filter (fun c => c.1 ≠ "") = [] :=
    List.filter_eq_nil_iff.mpr fun c hc => by simpa using hunnamed c hc
  have hcollected := Collected.of_tables p calls
  rw [hcalls, List.filter_append, hunnamed', List.nil_append, List.filter_cons_of_pos (by simpa using hname),
    List.map_cons] at hcollected
  have hanswer {k : StatementKind} (hk : k ≠ .select) (hlegible : (Collected.of p cs).Legible k.member) :
      (q'.prepareAs k clears).answer =
        .ok ((Outline.bare table).text k) := by
    have h := prepared_about_first_alias hq hp hadmissible (congrArg Collected.tables hcollected) hk
      hlegible clears
    rw [← hq', last_table_eq, hcollected] at h
    exact h
  have hnone : ∀ m, (Collected.of p cs).Legible m := by
    intro m
    rw [hcollected]
    cases m with
    | limit =>
      show withinDigitLimit 0 = true
      decide
    | insertions | updates => exact nofun
    | slot s => trivial
  obtain ⟨hinsert, hreplace, hupdate, hdelete⟩ := Outline.text_bare table
  refine ⟨?_, ?_, ?_, ?_, fun h => congrArg (p ++ ·) (tableUnder_eq_self h)⟩
  · rw [hanswer (k := .insert) nofun (hnone _), hinsert]
  · rw [hanswer (k := .replace) nofun (hnone _), hreplace]
  · rw [hanswer (k := .update) nofun (hnone _), hupdate]
  · rw [hanswer (k := .delete) nofun (hnone _), hdelete]

/-- An alias that defaults to the name, and is then given to another table. -/
theorem statements_about_first_alias_repeated :
    let q := (blank (.text "p_") none).after
      ([("", "x"), ("t", ""), ("u", "a"), ("v", "t"), ("", "t")].map fun c =>
        .addTable (.text c.1) (.text c.2))
    (q.prepareAs .replace false).answer = .ok "REPLACE INTO p_v () VALUES ()" ∧
      (q.prepareAs .delete false).answer = .ok "DELETE FROM p_v  " := by
  intro q
  have hq : (blank (.text "p_") none).Fresh :=
    .made (show create (.text "p_") .nothing none = _ from rfl)
  obtain ⟨-, hreplace, -, hdelete, -⟩ := statements_about_first_alias hq rfl
    (show ∀ c ∈ [("", "x")], c.1 = "" by decide) (show "t" ≠ "" by decide) ""
    [("u", "a"), ("v", "t"), ("", "t")] false
  exact ⟨hreplace.trans (congrArg Except.ok (by decide +kernel)),
    hdelete.trans (congrArg Except.ok (by decide +kernel))⟩

/-- A table that was added first, and that no statement is about any more. -/
theorem first_table_displaced :
    let q := (blank (.text "") none).after [.addTable (.text "t1") (.text "a"), .addTable (.text "t2") (.text "a")]
    (q.prepareAs .insert false).answer = .ok "INSERT INTO t2 () VALUES ()" ∧
      (q.prepareAs .replace false).answer = .ok "REPLACE INTO t2 () VALUES ()" ∧
      (q.prepareAs .update false).answer = .ok "UPDATE t2 SET  " ∧
      (q.prepareAs .delete false).answer = .ok "DELETE FROM t2  " :=
  ⟨rfl, rfl, rfl, rfl⟩

end Query

end SqlDraft
