import SqlDraft.Proofs.Containment
import SqlDraft.Proofs.Markers

/-!
# Parameters of a statement

A statement of nothing but names and assigned values has parameters all the same if its values look like markers:
every literal keeps the markers of its text.

* `Contribution.NamesAndAssigns`: the calls that name tables and assign values.
* `assignedEntries`, `settled_writes_eq`: the fields, with the values that came last, written as literals.
* `markers_parts`: nothing has markers but the literals.
* `Query.markers_come_from_values`: the parameters of the statement that is sent.
-/

namespace SqlDraft

/-! ## Calls -/

/-- The calls that only name tables, and assign values that are not raw, under names without a colon; and
the preparations. -/
def Contribution.NamesAndAssigns : Contribution → Prop
  | table name short => ':' ∉ name.toList ∧ ':' ∉ short.toList
  | assign _ w raw => raw = false ∧ ∀ e ∈ w.pairs, ':' ∉ e.1.toList
  | delete name => ':' ∉ name.toList
  | prepare _ => True
  | _ => False

theorem Contribution.NamesAndAssigns.isRaw_eq {c : Contribution} (h : c.NamesAndAssigns) :
    c.isRaw = false := by
  cases c with
  | assign => exact h.1
  | _ => rfl

instance (c : Contribution) : Decidable c.NamesAndAssigns :=
  match c with
  | .table name short => inferInstanceAs (Decidable (':' ∉ name.toList ∧ ':' ∉ short.toList))
  | .assign _ w raw =>
    inferInstanceAs (Decidable (raw = false ∧ ∀ e ∈ w.pairs, ':' ∉ e.1.toList))
  | .delete name => inferInstanceAs (Decidable (':' ∉ name.toList))
  | .prepare _ => isTrue trivial
  | .fields _ | .predicates _ | .order _ | .group _ | .limit _ | .join .. => isFalse id

/-- The fields that calls assign in a member, each with the value that came last. -/
def assignedEntries (cs : List Contribution) (m : Member) : List (String × Value) :=
  settled ((cs.flatMap (·.assigned m)).filter (·.1 ≠ ""))

/-! ## What the calls come to -/

/-- Calls that only name tables and assign values contribute nothing else. -/
structure Collected.OnlyEntries (k : Collected) : Prop where
  fields : k.fields = []
  predicates : k.predicates = []
  joins : k.joins = []
  groups : k.groups = []
  orders : k.orders = []
  limits : k.limits = []

section

variable {cs : List Contribution} (hcs : ∀ c ∈ cs, c.NamesAndAssigns)

include hcs

theorem Collected.onlyEntries (p : String) : (Collected.of p cs).OnlyEntries := by
  have hnothing {β : Type} {f : Contribution → List β} (hf : ∀ c, c.NamesAndAssigns → f c = []) :
      cs.flatMap f = [] := List.flatMap_eq_nil_iff.mpr fun c hc => hf c (hcs c hc)
  constructor <;> refine hnothing fun c hc => ?_ <;> cases c <;> first | rfl | exact hc.elim

/-- The literals that the values are written as stand under the same names. -/
theorem settled_writes_eq (m : Member) :
    settled (cs.flatMap (Contribution.writes m)) =
      (assignedEntries cs m).map fun e => (e.1, .text e.2.literal) := by
  rw [flatMap_writes_of_not_raw fun c hc => (hcs c hc).isRaw_eq,
    settled_map fun v : Value => Value.text v.literal]
  rfl

theorem shown_settled_writes_eq (m : Member) :
    (settled (cs.flatMap (Contribution.writes m))).map (fun w => (w.1, w.2.plainText)) =
      (assignedEntries cs m).map fun e => (e.1, e.2.literal) := by
  rw [settled_writes_eq hcs, List.map_map]
  rfl

theorem markers_assigned_names (m : Member) :
    (assignedEntries cs m).flatMap (fun e => markers e.1) = [] := by
  refine List.flatMap_eq_nil_iff.mpr fun e he => markers_eq_nil ?_
  obtain ⟨c, hc, hassigned⟩ := List.mem_flatMap.mp (List.mem_of_mem_filter (mem_of_mem_settled he))
  have h := hcs c hc
  cases c with
  | assign a w raw =>
    simp only [Contribution.assigned] at hassigned
    split at hassigned
    · exact h.2 e hassigned
    · exact absurd hassigned List.not_mem_nil
  | _ => exact absurd hassigned List.not_mem_nil

theorem markers_assigned_values (hadmissible : ∀ c ∈ cs, c.Admissible) (m : Member) :
    (assignedEntries cs m).flatMap (fun e => markers e.2.literal) =
      (assignedEntries cs m).flatMap fun e => e.2.textMarkers := by
  refine List.flatMap_congr fun e he => Value.markers_literal ?_
  obtain ⟨hassigned, hname⟩ := List.mem_filter.mp (mem_of_mem_settled he)
  obtain ⟨c, hc, hassigned⟩ := List.mem_flatMap.mp hassigned
  exact Contribution.writable_of_mem_assigned (hadmissible c hc) (hcs c hc).isRaw_eq hassigned
    (of_decide_eq_true hname)

theorem markers_table {p : String} (hp : ':' ∉ p.toList) {t : String × String}
    (ht : t ∈ settled (cs.flatMap (Contribution.tables p))) : markers t.1 = [] ∧ markers t.2 = [] := by
  have hprefixed {name : String} (h : ':' ∉ name.toList) : markers (p ++ name) = [] := by
    refine markers_eq_nil ?_
    rw [String.toList_append, List.mem_append, not_or]
    exact ⟨hp, h⟩
  obtain ⟨c, hc, htable⟩ := List.mem_flatMap.mp (mem_of_mem_settled ht)
  have h := hcs c hc
  cases c with
  | table name short =>
    simp only [Contribution.tables] at htable
    split at htable
    · exact absurd htable List.not_mem_nil
    · obtain rfl := List.mem_singleton.mp htable
      refine ⟨?_, hprefixed h.1⟩
      unfold orOther
      split
      · exact markers_eq_nil h.1
      · exact markers_eq_nil h.2
  | delete name =>
    simp only [Contribution.tables] at htable
    split at htable
    · exact absurd htable List.not_mem_nil
    · obtain rfl := List.mem_singleton.mp htable
      exact ⟨markers_eq_nil h, hprefixed h⟩
  | _ => exact absurd htable List.not_mem_nil

omit hcs in
/-- Nothing is assigned to the limit. -/
theorem assignedEntries_limit (cs : List Contribution) : assignedEntries cs .limit = [] := by
  have hnone : cs.flatMap (·.assigned .limit) = [] := by
    refine List.flatMap_eq_nil_iff.mpr fun c _ => ?_
    cases c with
    | assign a w raw => cases a <;> rfl
    | _ => rfl
  rw [assignedEntries, hnone]
  rfl

/-- No part of a statement has markers but the literals. -/
theorem markers_parts (hadmissible : ∀ c ∈ cs, c.Admissible) {p : String} (hp : ':' ∉ p.toList)
    (k : StatementKind) :
    ((Collected.of p cs).outline.parts k).flatMap markers =
      (assignedEntries cs k.member).flatMap fun e => e.2.textMarkers := by
  set o := (Collected.of p cs).outline with ho
  have honly := Collected.onlyEntries hcs p
  have htable {t : String × String} (ht : t ∈ o.tables) := markers_table hcs hp ht
  have htarget : markers o.target = [] := by
    unfold Outline.target
    cases htables : o.tables with
    | nil => rfl
    | cons t ts => exact (htable (htables ▸ List.mem_cons_self)).2
  have htables : (o.tables.flatMap fun t => [t.2, t.1]).flatMap markers = [] := by
    rw [List.flatMap_assoc]
    refine List.flatMap_eq_nil_iff.mpr fun t ht => ?_
    simp [htable ht]
  have hpredicates : o.predicates = [] := by
    rw [ho, Collected.outline, honly.predicates]
    rfl
  have hvalues := markers_assigned_values hcs hadmissible
  cases k with
  | select =>
    have hfields : o.fields = [] := by
      rw [ho, Collected.outline, honly.fields]
      rfl
    have hjoins : o.joins = [] := honly.joins
    have hgroups : o.groups = [] := honly.groups
    have horders : o.orders = [] := honly.orders
    rw [StatementKind.member, assignedEntries_limit, Outline.parts, hfields, hjoins, hpredicates, hgroups, horders]
    simpa using htables
  | delete =>
    rw [StatementKind.member, assignedEntries_limit, Outline.parts, hpredicates, List.flatMap_cons, htarget]
    rfl
  | insert | insertSelect | replace =>
    have hinsertions : o.insertions = (assignedEntries cs .insertions).map fun e => (e.1, e.2.literal) :=
      shown_settled_writes_eq hcs .insertions
    rw [StatementKind.member, Outline.parts, hinsertions, List.flatMap_cons, htarget, List.flatMap_append,
      List.map_map, List.map_map, List.flatMap_map, List.flatMap_map, List.nil_append, ← hvalues]
    exact congrArg (· ++ _) (markers_assigned_names hcs .insertions)
  | update =>
    have hupdates : o.updates = (assignedEntries cs .updates).map fun e => (e.1, e.2.literal) :=
      shown_settled_writes_eq hcs .updates
    rw [StatementKind.member, Outline.parts, hupdates, hpredicates, List.flatMap_cons, htarget,
      List.append_nil, List.nil_append, List.flatMap_map, List.flatMap_assoc, ← hvalues]
    refine List.flatMap_congr fun e he => ?_
    simp [List.flatMap_eq_nil_iff.mp (markers_assigned_names hcs .updates) e he]

end

namespace Query

/-- **Markers come from values.** The statement of a query to which calls gave only names without a colon, and
values that are not raw, is sent off. Whatever the values: the markers in it are those in the texts of the
values that were assigned last, field by field. Quoting hides none of them and adds none, so the statement has
no parameters exactly if no such text has a marker. -/
theorem markers_come_from_values {q : Query} (hq : q.Fresh) {p : String} (hp : q.tablePrefix = .text p)
    (hcolon : ':' ∉ p.toList) {cs : List Contribution} (hcs : ∀ c ∈ cs, c.Admissible)
    (hnamed : ∀ c ∈ cs, c.NamesAndAssigns) {given : Option String} {connection : String}
    (hconnection : given.or q.connection = some connection) (d : Dispatch) (reply : Reply) :
    let q' := q.after (cs.map Contribution.call)
    let values := (assignedEntries cs (Collected.of p cs).kind.member).map Prod.snd
    ∃ sql, (q'.prepare false).answer = .ok sql ∧
      (q'.step (d.call given reply)).sent = [(connection, sql)] ∧
      markers sql = values.flatMap Value.textMarkers ∧
      (markers sql = [] ↔ ∀ v ∈ values, v.textMarkers = []) := by
  intro q' values
  set k := Collected.of p cs with hk
  have hq' : q' = q.holding k := hq.after_eq hp hcs
  have hlegible : k.Legible k.kind.member := by
    have hwritable (m : Member) : ∀ w ∈ settled (cs.flatMap (Contribution.writes m)), w.2.Writable := by
      intro w hw
      rw [settled_writes_eq hnamed] at hw
      obtain ⟨e, -, rfl⟩ := List.mem_map.mp hw
      exact nofun
    cases hm : k.kind.member with
    | limit =>
      show withinDigitLimit (k.limits.getLastD 0) = true
      rw [hk, (Collected.onlyEntries hnamed p).limits]
      rfl
    | insertions => exact hwritable .insertions
    | updates => exact hwritable .updates
    | slot s => trivial
  have hrendered : q'.rendered .own = .ok (k.outline.text k.kind) := by
    rw [hq']
    exact q.rendered_holding (w := .own) hlegible
  have hconnection' : given.or q'.connection = some connection := by
    rw [hq']
    exact hconnection
  have hmarkers : markers (k.outline.text k.kind) = values.flatMap Value.textMarkers := by
    rw [Outline.markers_text, markers_parts hnamed hcs hcolon, List.flatMap_map]
  refine ⟨_, (Preparation.answer_on .own q' false).trans hrendered, ?_, hmarkers, ?_⟩
  · rw [d.step_call, execute_of_text hconnection' hrendered]
    exact send_sent ..
  · rw [hmarkers]
    exact List.flatMap_eq_nil_iff

/-- A time of day, a value with a marker that is overwritten, and two markers in a list. -/
theorem markers_come_from_values_list :
    let cs : List Contribution := [.table "t" "", .assign .insert (.one "a" (.text ":gone")) false,
      .assign .replace (.all .list ["b", "a"] (.list [.text "12:30 's", .null])) false,
      .assign .replace (.one "c" (.list [.text ":x's", .text " :y"])) false]
    let q := (blank (.text "p_") (some "own")).after (cs.map Contribution.call)
    ∃ sql, (q.prepare false).answer = .ok sql ∧
      (q.step (Call.execute none true (.table ⟨[], []⟩))).sent = [("own", sql)] ∧
      markers sql = ["x", "y"] := by
  intro cs q
  have hcs : ∀ c ∈ cs, c.Admissible := by decide
  have hnamed : ∀ c ∈ cs, c.NamesAndAssigns := by decide
  obtain ⟨sql, hsql, hsent, hmarkers, -⟩ := markers_come_from_values
    (.made (show create (.text "p_") .nothing (some "own") = _ from rfl)) rfl (by decide) hcs hnamed
    (show (none : Option String).or (some "own") = some "own" from rfl) (.execute true) (.table ⟨[], []⟩)
  exact ⟨sql, hsql, hsent, hmarkers.trans (by decide +kernel)⟩

/-- A text that looks like a marker is one, in the quotes that it is written in. -/
theorem quoted_text_is_marker :
    let q := (blank (.text "") none).after
      [.addTable (.text "t") (.text ""), .assign .insert (.text "a") (.text ":b") false]
    (q.prepare false).answer = .ok "INSERT INTO t (a) VALUES (':b')" ∧
      markers "INSERT INTO t (a) VALUES (':b')" = ["b"] :=
  ⟨rfl, by decide +kernel⟩

end Query

end SqlDraft
