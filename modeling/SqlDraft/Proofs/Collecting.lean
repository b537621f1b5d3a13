import SqlDraft.Proofs.Contribution
import SqlDraft.Proofs.Reuse

/-!
# Collecting a statement

A query to which calls contribute holds, after every call, exactly what the calls so far have contributed.
So its statement can be read off the calls.

* `State.holding`, `Query.holding`: a query that was cleared and then contributed to.
* `Query.step_holding`: one more call makes it hold one more contribution.
* `Query.after_holding`: so do the calls of a whole history.
* `State.holding_outlined`, `Query.rendered_holding`: what it holds is what the outline says, and is written so.
* `Query.rendered_after`: the statement after a history, read off its calls.
-/

namespace SqlDraft

/-- The state of a query that was cleared and then contributed to. Joins go to the legacy collection. -/
@[simp] def State.holding (k : Collected) : State where
  current :=
    { tables := .dict (Entries.ofWrites .text (settled k.tables))
      fields := .list (k.fields.map Fragment.value)
      predicates := .list (k.predicates.map Fragment.value)
      joins := .list []
      groups := .list (k.groups.map .text)
      orders := .list (k.orders.map .text) }
  limit := .int k.limit
  insertions := .dict (Entries.ofWrites id (settled k.insertions))
  updates := .dict (Entries.ofWrites id (settled k.updates))
  legacy := { Collections.empty with joins := .list (k.joins.map JoinOutline.value) }

namespace Query

/-- A query that was cleared and then contributed to. -/
@[simp] def holding (q : Query) (k : Collected) : Query :=
  { q with state := .holding k, kind := k.kind.toValue }

theorem holding_of_nil (q : Query) (p : String) : q.holding (.of p []) = q.clear := rfl

/-! ## Tables, joins and the limit -/

variable {q : Query} {p : String} (k : Collected)

theorem addTable_holding (hp : q.tablePrefix = .text p) (name short : String) :
    (q.holding k).addTable (.text name) (.text short) =
      .ok (q.holding (k.add p (.table name short))) := by
  unfold addTable
  by_cases h : name = ""
  · subst h
    simp
  · have hput := Entries.foldl_put_settled .text k.tables [(orOther short name, p ++ name)]
    rw [List.foldl_cons, List.foldl_nil] at hput
    simp [tableName, hp, h, orElse_text, Value.assign, hput, setMember, State.set, Collections.set]

theorem setDelete_holding (hp : q.tablePrefix = .text p) (name : String) :
    (q.holding k).setDelete (.text name) = .ok (q.holding (k.add p (.delete name))) := by
  rw [setDelete, addTable_holding k hp, ok_bind]
  by_cases h : name = "" <;> simp [setKind, orOther, h]

theorem addJoin_holding (hp : q.tablePrefix = .text p) (name short condition type : String) :
    (q.holding k).addJoin (.text name) (.text short) (.text condition) (.text type) =
      .ok (q.holding (k.add p (.join name short condition type))) := by
  simp [addJoin, tableName, hp, joinEntry, JoinOutline.value, orElse_text, setLegacy, State.setLegacy,
    Collections.set]

/-- A limit that is refused adds nothing. -/
theorem limitEffect_holding (v : Value) :
    ((q.holding k).limitEffect v).query = q.holding (k.add p (.limit v)) := by
  rw [limitEffect, setLimit]
  cases hn : limitOf v with
  | error f => simp [hn]
  | ok n =>
    rw [ok_bind]
    by_cases hpos : 0 < n <;> simp [hn, hpos, setMember, State.set]

/-! ## Fragments -/

theorem addFragment_eq {s : Slot} (vs : List Value) (h : q.state.current.get s = .list vs) (v : Value) :
    q.addFragment s v = .ok (if v.truthy then q.setMember (.slot s) (.list (vs ++ [v])) else q) := by
  rw [addFragment, h]
  cases v.truthy <;> rfl

theorem addFields_holding (f : Fragment) :
    (q.holding k).addFields f.value = .ok (q.holding (k.add p (.fields f))) := by
  rw [addFields, addFragment_eq (k.fields.map Fragment.value) rfl, f.truthy_value]
  cases h : f.present <;> simp [h, setMember, State.set, Collections.set]

theorem addPredicates_holding (f : Fragment) :
    (q.holding k).addPredicates f.value = .ok (q.holding (k.add p (.predicates f))) := by
  rw [addPredicates, addFragment_eq (k.predicates.map Fragment.value) rfl, f.truthy_value]
  cases h : f.present <;> simp [h, setMember, State.set, Collections.set]

theorem addOrder_holding (s : String) :
    (q.holding k).addOrder (.text s) = .ok (q.holding (k.add p (.order s))) := by
  rw [addOrder, addFragment_eq (k.orders.map .text) rfl, Value.truthy_text]
  by_cases h : s = "" <;> simp [h, setMember, State.set, Collections.set]

theorem addGroup_holding (s : String) :
    (q.holding k).addGroup (.text s) = .ok (q.holding (k.add p (.group s))) := by
  rw [addGroup, addFragment_eq (k.groups.map .text) rfl, Value.truthy_text]
  by_cases h : s = "" <;> simp [h, setMember, State.set, Collections.set]

/-! ## Assignments -/

theorem expression_eq {raw : Bool} {v : Value} (h : raw = false → v.Writable) :
    expression raw v = .ok (Pairing.expressionOf raw v) := by
  cases raw with
  | true => rfl
  | false => rw [expression, Value.quote_eq_literal (h rfl)]; rfl

/-- Pairs whose values are raw, or can be written, are set one by one, without a fault. -/
theorem assignEach_eq {raw : Bool} (es : Entries) {ws : List (String × Value)}
    (h : raw = false → ∀ w ∈ ws, w.1 ≠ "" → w.2.Writable) :
    assignEach raw (.dict es) (ws.map fun w => (.text w.1, w.2)) =
      (.dict (((ws.filter (·.1 ≠ "")).map fun w => (w.1, Pairing.expressionOf raw w.2)).foldl
        (fun es w => Entries.put (.text w.1) w.2 es) es), .ok ()) := by
  induction ws generalizing es with
  | nil => rfl
  | cons w ws ih =>
    obtain ⟨field, v⟩ := w
    have hrest : raw = false → ∀ w ∈ ws, w.1 ≠ "" → w.2.Writable :=
      fun hraw w hw => h hraw w (List.mem_cons_of_mem _ hw)
    rw [List.map_cons, assignEach, assignOne, Value.truthy_text]
    by_cases hf : field = ""
    · rw [List.filter_cons_of_neg (by simpa using hf)]
      simp only [hf, bne_self_eq_false, Bool.false_eq_true, if_false]
      exact ih es hrest
    · have hne : (field != "") = true := bne_iff_ne.mpr hf
      rw [List.filter_cons_of_pos (by simpa using hf)]
      simp only [hne, if_true, expression_eq fun hraw => h hraw _ List.mem_cons_self hf, ok_bind, Value.assign,
        Value.keyFault_text]
      exact ih _ hrest

/-- Values that do not match their fields give no pairs, so nothing is set for them. -/
theorem assign_query {a : Assignment} {w : Pairing} {raw : Bool} {es : Entries}
    (hes : q.state.get a.member = .dict es)
    (hw : raw = false → ∀ e ∈ w.pairs, e.1 ≠ "" → e.2.Writable) :
    (q.assign a w.fields w.values raw).1 =
      (q.setMember a.member (.dict ((w.expressions raw).foldl
        (fun es e => Entries.put (.text e.1) e.2 es) es))).setKind a.kind.toValue := by
  obtain ⟨o, ho, hpairs⟩ := w.pairsFor_eq
  unfold assign Pairing.expressions
  rw [ho]
  cases o with
  | none =>
    rw [List.map_eq_nil_iff.mp hpairs.symm, List.filter_nil, List.map_nil, List.foldl_nil, ← hes]
    cases a <;> rfl
  | some ps =>
    rw [Option.getD_some] at hpairs
    subst hpairs
    simp only [hes, assignEach_eq es hw]

theorem assignEffect_holding (a : Assignment) {w : Pairing} {raw : Bool}
    (hw : raw = false → ∀ e ∈ w.pairs, e.1 ≠ "" → e.2.Writable) :
    ((q.holding k).assignEffect a w.fields w.values raw).query =
      q.holding (k.add p (.assign a w raw)) := by
  have hput (ws : List (String × Value)) :
      (w.expressions raw).foldl (fun es e => Entries.put (.text e.1) e.2 es)
        (Entries.ofWrites id (settled ws)) =
        Entries.ofWrites id (settled (ws ++ w.expressions raw)) :=
    Entries.foldl_put_settled id ws (w.expressions raw)
  show ((q.holding k).assign a w.fields w.values raw).1 = _
  cases a with
  | insert | replace =>
    rw [assign_query (show _ = Value.dict (Entries.ofWrites id (settled k.insertions)) from rfl) hw, hput]
    simp [setKind, setMember, State.set, Assignment.member]
  | update =>
    rw [assign_query (show _ = Value.dict (Entries.ofWrites id (settled k.updates)) from rfl) hw, hput]
    simp [setKind, setMember, State.set, Assignment.member]

/-! ## A history of calls -/

/-- One more call makes a query hold one more contribution. -/
theorem step_holding (hp : q.tablePrefix = .text p) {c : Contribution} (hc : c.Admissible) :
    ((q.holding k).step c.call).query = q.holding (k.add p c) := by
  cases c with
  | table name short =>
    show (Effect.ofUpdate _ ((q.holding k).addTable _ _)).query = _
    rw [addTable_holding k hp]; rfl
  | fields f =>
    show (Effect.ofUpdate _ ((q.holding k).addFields _)).query = _
    rw [addFields_holding]; rfl
  | predicates f =>
    show (Effect.ofUpdate _ ((q.holding k).addPredicates _)).query = _
    rw [addPredicates_holding]; rfl
  | order s =>
    show (Effect.ofUpdate _ ((q.holding k).addOrder _)).query = _
    rw [addOrder_holding]; rfl
  | group s =>
    show (Effect.ofUpdate _ ((q.holding k).addGroup _)).query = _
    rw [addGroup_holding]; rfl
  | limit v => exact limitEffect_holding k v
  | join name short condition type =>
    show (Effect.ofUpdate _ ((q.holding k).addJoin _ _ _ _)).query = _
    rw [addJoin_holding k hp]; rfl
  | assign a w raw => exact assignEffect_holding k a hc
  | delete name =>
    show (Effect.ofUpdate _ ((q.holding k).setDelete _)).query = _
    rw [setDelete_holding k hp]; rfl
  | prepare w =>
    have hsame : (w.on (q.holding k) false).query = q.holding k := by
      rw [w.query_on]
      split <;> rfl
    have hk : k.add p (.prepare w) = k := by simp
    rw [hk]
    cases w with
    | own => exact hsame
    | of => exact hsame

/-- After a history, a query that was cleared before holds what the calls have contributed. -/
theorem after_holding (hp : q.tablePrefix = .text p) {cs : List Contribution}
    (hcs : ∀ c ∈ cs, c.Admissible) :
    q.clear.after (cs.map Contribution.call) = q.holding (.of p cs) := by
  induction cs using List.reverseRecOn with
  | nil => exact (holding_of_nil q p).symm
  | append_singleton cs c ih =>
    obtain ⟨hinit, hlast⟩ := List.forall_mem_append.mp hcs
    rw [List.map_append, List.map_singleton, after_append, ih hinit, Collected.of_append_singleton]
    exact step_holding _ hp (hlast c (List.mem_singleton_self c))

end Query

/-! ## The outline -/

theorem mapM_shownEntry_ofWrites {ws : List (String × Value)} (h : ∀ w ∈ ws, w.2.Writable) :
    (Entries.ofWrites id ws).mapM shownEntry = .ok (ws.map fun w => (w.1, w.2.plainText)) := by
  rw [Entries.ofWrites, List.mapM_map]
  refine mapM_eq_ok fun w hw => ?_
  show shownEntry (.text w.1, w.2) = _
  rw [shownEntry, Value.shown_eq_plainText (h w hw)]
  rfl

/-- What a query holds is what the outline says, once the legacy joins are in their place. -/
theorem State.holding_outlined {k : Collected} {kind : StatementKind} (hk : k.Legible kind.member) :
    (State.holding k).reconciled.Outlined kind k.outline where
  tables := rfl
  fields := congrArg Except.ok (Fragment.flattenList_values _)
  predicates := congrArg Except.ok (Fragment.flattenList_values _)
  joins := by
    show Collections.pick (.list []) (.list (k.joins.map JoinOutline.value)) =
      .list (k.joins.map JoinOutline.value)
    cases k.joins <;> rfl
  groups := rfl
  orders := rfl
  limit := rfl
  limitWithin h := by
    rw [h] at hk
    exact hk
  insertions h := by
    rw [h] at hk
    exact ⟨_, rfl, mapM_shownEntry_ofWrites hk⟩
  updates h := by
    rw [h] at hk
    exact ⟨_, rfl, mapM_shownEntry_ofWrites hk⟩

namespace Query

/-- A query that was just made, or just cleared. -/
inductive Fresh : Query → Prop
  | made {tablePrefix : Value} {source : PrefixSource} {connection : Option String} {q : Query}
      (h : create tablePrefix source connection = .ok q) : Fresh q
  | cleared (q : Query) : Fresh q.clear

theorem Fresh.clear_eq {q : Query} (h : q.Fresh) : q.clear = q := by
  cases h with
  | made h => exact create_clear h
  | cleared q => rfl

/-- After a history, a fresh query holds what the calls have contributed. -/
theorem Fresh.after_eq {q : Query} (hq : q.Fresh) {p : String} (hp : q.tablePrefix = .text p)
    {cs : List Contribution} (hcs : ∀ c ∈ cs, c.Admissible) :
    q.after (cs.map Contribution.call) = q.holding (.of p cs) := by
  rw [← after_holding hp hcs, hq.clear_eq]

end Query

/-- The kind of statement that a preparation writes after calls. -/
def Preparation.kindAfter (w : Preparation) (k : Collected) : StatementKind :=
  match w with
  | own => k.kind
  | of kind => kind

namespace Query

/-- The statement of a query that was contributed to is that of the outline. -/
theorem rendered_holding (q : Query) {k : Collected} {w : Preparation}
    (hw : k.Legible (w.kindAfter k).member) :
    (q.holding k).rendered w = .ok (k.outline.text (w.kindAfter k)) := by
  have hrender := (State.holding_outlined hw).render_eq
  cases w with
  | own =>
    rw [rendered]
    show (StatementKind.ofValue k.kind.toValue >>= _) = _
    rw [StatementKind.ofValue_toValue, ok_bind]
    exact hrender
  | of kind => exact hrender

/-- **The statement of a history.** After any calls on a query that was just made or cleared, its statement
can be read off the calls, if no integer with too many digits is written on the way. -/
theorem rendered_after {q : Query} (hq : q.Fresh) {p : String} (hp : q.tablePrefix = .text p)
    {cs : List Contribution} (hcs : ∀ c ∈ cs, c.Admissible) {w : Preparation}
    (hw : (Collected.of p cs).Legible (w.kindAfter (.of p cs)).member) (clears : Bool) :
    (w.on (q.after (cs.map Contribution.call)) clears).answer =
      .ok ((Collected.of p cs).outline.text (w.kindAfter (.of p cs))) := by
  rw [w.answer_on, hq.after_eq hp hcs]
  exact q.rendered_holding hw

/-- An alias and a field that are used twice keep their places. -/
theorem rendered_after_repeated :
    let cs : List Contribution := [.table "t" "a", .table "u" "", .limit (.text "7 rows"), .limit (.int 0),
      .assign .insert (.one "f" (.text "O'Brien")) false, .table "v" "a",
      .assign .insert (.all .list ["g", "f"] (.tuple [.null, .int 3])) false]
    let q := (blank (.text "p_") none).after (cs.map Contribution.call)
    ((Preparation.of .select).on q false).answer =
        .ok "SELECT * FROM ((p_v AS a),(p_u AS u))     LIMIT 7" ∧
      (Preparation.own.on q false).answer = .ok "INSERT INTO p_v (f,g) VALUES (3,NULL)" := by
  intro cs q
  have hq : (blank (.text "p_") none).Fresh :=
    .made (show create (.text "p_") .nothing none = _ from rfl)
  have hcs : ∀ c ∈ cs, c.Admissible := by decide
  have hselect := rendered_after (w := .of .select) hq rfl hcs (by decide +kernel) false
  have hown := rendered_after (w := .own) hq rfl hcs (by decide +kernel) false
  exact ⟨hselect.trans (congrArg Except.ok (by decide +kernel)),
    hown.trans (congrArg Except.ok (by decide +kernel))⟩

end Query

end SqlDraft
