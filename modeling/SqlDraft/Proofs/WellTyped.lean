import Mathlib.Data.Nat.Digits.Defs
import SqlDraft.Proofs.Collecting
import SqlDraft.Proofs.Relocation

/-!
# Well-typed sessions

A session is well typed if its calls hand over texts where texts are expected, limits that are short, and
values that can be written. No call of such a session fails, and neither does any statement.

* `Value.ShortLimit`, `exists_limitOf_of_short`: short limits are read as integers of 64 bits.
* `Contribution.WellTyped`, `Usage`: the calls of a well-typed session.
* `Value.ListsOf`, `Value.NamesOf`, `Query.WellTyped`: what the members of a query hold throughout such a
  session.
* `Query.WellTyped.exists_statement`: a well-typed query has a statement of every kind.
* `Query.WellTyped.addTable` to `Query.WellTyped.assign`: what adds to a query keeps it well typed.
* `Query.WellTyped.step`: a call succeeds and leaves a well-typed query.
* `Query.well_typed_session_succeeds`: so do all calls of a session, and so does every statement after it.
-/

namespace SqlDraft

/-! ## Short limits -/

/-- The first integer that does not fit in 64 bits. -/
def integerBound : Int := Nat.pow 2 63

/-- How many digits may stand side by side in a text that is a short limit. -/
def digitRunLimit : Nat := 18

/-- An integer that fits in 64 bits, or a text without a long run of digits. -/
def Value.ShortLimit : Value → Prop
  | .int i => -integerBound ≤ i ∧ i < integerBound
  | .text s =>
    ∀ ds, ds <:+: s.toList → (∀ c ∈ ds, isDecimalDigit c = true) → ds.length ≤ digitRunLimit
  | _ => False

theorem withinDigitLimit_of_lt {i : Int} (h0 : 0 ≤ i) (h : i < integerBound) :
    withinDigitLimit i = true := by
  have hbound : integerBound = 9223372036854775808 := rfl
  have hlt : i.natAbs < 10 ^ 19 := by omega
  have hlength := Nat.toDigits_length 10 i.natAbs 19 (by decide) hlt
  have hlimit : digitLimit = 4300 := rfl
  rw [withinDigitLimit, decide_eq_true_eq, decimalDigits]
  omega

theorem foldl_digits_lt (cs : List Char) (n : Nat) :
    cs.foldl (fun n c => 10 * n + (digitValue? c).getD 0) n < (n + 1) * 10 ^ cs.length := by
  induction cs generalizing n with
  | nil => simp
  | cons c cs ih =>
    have hdigit : (digitValue? c).getD 0 < 10 := by
      cases hc : digitValue? c with
      | none => decide
      | some d => exact digitValue?_lt hc
    have hstep := ih (10 * n + (digitValue? c).getD 0)
    have hle : (10 * n + (digitValue? c).getD 0 + 1) * 10 ^ cs.length ≤
        (n + 1) * 10 * 10 ^ cs.length := Nat.mul_le_mul_right _ (by omega)
    rw [List.foldl_cons, List.length_cons, Nat.pow_succ, Nat.mul_comm (10 ^ cs.length), ← Nat.mul_assoc]
    omega

theorem digitsValue_lt (cs : List Char) : digitsValue cs < 10 ^ cs.length := by
  have h := foldl_digits_lt cs 0
  rwa [Nat.zero_add, Nat.one_mul] at h

theorem takeSign_suffix (cs : List Char) : (takeSign cs).2 <:+ cs := by
  unfold takeSign
  split
  · exact List.suffix_cons ..
  · exact List.suffix_cons ..
  · exact List.suffix_refl _

/-- The digits that a text starts with stand side by side in it. -/
theorem leadingDigits_infix {cs ds : List Char} {negative : Bool}
    (h : leadingDigits cs = some (negative, ds)) :
    ds <:+: cs ∧ ∀ c ∈ ds, isDecimalDigit c = true := by
  have hbody : (takeSign (cs.dropWhile isBlank)).2 <:+ cs :=
    (takeSign_suffix _).trans (List.dropWhile_suffix _)
  unfold leadingDigits at h
  dsimp only at h
  split at h
  · cases h
  · rename_i hds _
    cases h
    refine ⟨(List.takeWhile_prefix _).isInfix.trans hbody.isInfix, fun c hc => ?_⟩
    exact List.all_eq_true.mp List.all_takeWhile c hc

/-- Short limits are read, as integers of 64 bits. -/
theorem exists_limitOf_of_short {v : Value} (h : v.ShortLimit) :
    ∃ n, Query.limitOf v = .ok n ∧ n < integerBound := by
  cases v with
  | int i => exact ⟨i, rfl, h.2⟩
  | text s =>
    show ∃ n, leadingInteger s = .ok n ∧ n < integerBound
    unfold leadingInteger
    cases hd : leadingDigits s.toList with
    | none => exact ⟨0, rfl, by decide⟩
    | some r =>
      obtain ⟨negative, ds⟩ := r
      obtain ⟨hsub, hdigits⟩ := leadingDigits_infix hd
      have hlength : ds.length ≤ 18 := h ds hsub hdigits
      have hlimit : digitLimit = 4300 := rfl
      have hvalue : digitsValue ds < 10 ^ 18 :=
        Nat.lt_of_lt_of_le (digitsValue_lt ds) (Nat.pow_le_pow_right (by decide) hlength)
      have hbound : integerBound = 9223372036854775808 := rfl
      refine ⟨Binary64.signed negative (digitsValue ds), ?_, ?_⟩
      · exact if_neg (by omega)
      · unfold Binary64.signed
        split <;> omega
  | _ => exact h.elim

/-! ## Calls -/

namespace Contribution

/-- Short limits, and values that can be written under every field that has a name. -/
def WellTyped : Contribution → Prop
  | limit v => v.ShortLimit
  | assign _ w _ => ∀ e ∈ w.pairs, e.1 ≠ "" → e.2.Writable
  | _ => True

end Contribution

/-- The calls of a well-typed session: what contributes to a statement, and what clears the query. -/
inductive Usage
  | contribute (c : Contribution)
  | clear
  /-- Writes a statement and clears the query. -/
  | consume (w : Preparation)

namespace Usage

/-- The call itself. -/
def call : Usage → Call
  | contribute c => c.call
  | clear => .clear
  | consume .own => .prepare true
  | consume (.of k) => .prepareAs k true

/-- Whether a call is well typed; there is nothing to it if it only clears. -/
def WellTyped : Usage → Prop
  | contribute c => c.WellTyped
  | _ => True

end Usage

/-! ## Containers -/

namespace Value

/-- A list of what `f` makes of some things that satisfy `P`. -/
def ListsOf {α : Type} (v : Value) (f : α → Value) (P : α → Prop) : Prop :=
  ∃ xs : List α, v = .list (xs.map f) ∧ ∀ x ∈ xs, P x

/-- A dictionary from different names, none of them empty, to what `f` makes of some things that satisfy
`P`. -/
def NamesOf {α : Type} (v : Value) (f : α → Value) (P : α → Prop) : Prop :=
  ∃ ws : List (String × α), v = .dict (Entries.ofWrites f ws) ∧ (ws.map Prod.fst).Nodup ∧
    ∀ w ∈ ws, w.1 ≠ "" ∧ P w.2

variable {α : Type} {v : Value} {f : α → Value} {P : α → Prop}

theorem ListsOf.append (h : v.ListsOf f P) {x : α} (hx : P x) :
    ∃ v', v.append (f x) = .ok v' ∧ v'.ListsOf f P := by
  obtain ⟨xs, rfl, hxs⟩ := h
  refine ⟨_, rfl, xs ++ [x], by rw [List.map_append, List.map_singleton], ?_⟩
  exact List.forall_mem_append.mpr ⟨hxs, fun y hy => List.mem_singleton.mp hy ▸ hx⟩

/-- An entry that is set under a name replaces what was there, or comes last. -/
theorem NamesOf.assign (h : v.NamesOf f P) {name : String} (hname : name ≠ "") {x : α} (hx : P x) :
    ∃ v', v.assign (.text name) (f x) = .ok v' ∧ v'.NamesOf f P := by
  obtain ⟨ws, rfl, hnodup, hws⟩ := h
  refine ⟨_, rfl, _, congrArg dict (Entries.put_ofWrites f (name, x) hnodup), ?_⟩
  by_cases hm : name ∈ ws.map Prod.fst
  · rw [if_pos hm]
    have hkeys : (ws.map fun v => if v.1 = name then (name, x) else v).map Prod.fst =
        ws.map Prod.fst := by
      rw [List.map_map]
      refine List.map_congr_left fun w _ => ?_
      by_cases hw : w.1 = name <;> simp [hw]
    refine ⟨hkeys ▸ hnodup, List.forall_mem_map.mpr fun w hw => ?_⟩
    by_cases hw' : w.1 = name
    · rw [if_pos hw']
      exact ⟨hname, hx⟩
    · rw [if_neg hw']
      exact hws w hw
  · rw [if_neg hm, List.map_append, List.map_singleton]
    refine ⟨List.nodup_append.mpr ⟨hnodup, by simp, fun a ha b hb => ?_⟩,
      List.forall_mem_append.mpr ⟨hws, fun w hw => ?_⟩⟩
    · rw [List.mem_singleton.mp hb]
      rintro rfl
      exact hm ha
    · rw [List.mem_singleton.mp hw]
      exact ⟨hname, hx⟩

end Value

/-! ## Queries -/

/-- What the members of a query hold throughout a well-typed session. Joins are kept under the older name
alone, each with texts for its table, alias, condition and type. -/
structure Query.WellTyped (q : Query) : Prop where
  tablePrefix : ∃ p, q.tablePrefix = .text p
  tables : q.state.current.tables.NamesOf .text fun _ => True
  fields : q.state.current.fields.ListsOf Fragment.value fun f => f.present = true
  predicates : q.state.current.predicates.ListsOf Fragment.value fun f => f.present = true
  joins : q.state.current.joins = .list []
  groups : q.state.current.groups.ListsOf .text (· ≠ "")
  orders : q.state.current.orders.ListsOf .text (· ≠ "")
  limit : ∃ n : Int, q.state.limit = .int n ∧ 0 ≤ n ∧ n < integerBound
  insertions : q.state.insertions.NamesOf id Value.Writable
  updates : q.state.updates.NamesOf id Value.Writable
  legacyJoins : ∃ os, JoinOutline.DescribeAll os q.state.legacy.joins
  legacyRest : ∀ t : Slot, t ≠ .joins → q.state.legacy.get t = Collections.empty.get t
  kind : ∃ k : StatementKind, q.kind = k.toValue

namespace Query.WellTyped

variable {q : Query} {p : String}

theorem cleared (hp : q.tablePrefix = .text p) : q.clear.WellTyped where
  tablePrefix := ⟨p, hp⟩
  tables := ⟨[], rfl, .nil, nofun⟩
  fields := ⟨[], rfl, nofun⟩
  predicates := ⟨[], rfl, nofun⟩
  joins := rfl
  groups := ⟨[], rfl, nofun⟩
  orders := ⟨[], rfl, nofun⟩
  limit := ⟨0, rfl, by decide, by decide⟩
  insertions := ⟨[], rfl, .nil, nofun⟩
  updates := ⟨[], rfl, .nil, nofun⟩
  legacyJoins := ⟨[], JoinOutline.describeAll_values []⟩
  legacyRest _ _ := rfl
  kind := ⟨.select, rfl⟩

/-! ### Statements -/

/-- Only joins are filled in from the older names. -/
theorem reconciled_eq (h : q.WellTyped) :
    q.state.reconciled =
      { q.state with current := { q.state.current with joins := q.state.legacy.joins } } := by
  have hmerge : q.state.current.merge q.state.legacy =
      { q.state.current with joins := q.state.legacy.joins } := by
    ext t
    rw [Collections.get_merge]
    by_cases ht : t = .joins
    · subst ht
      obtain ⟨-, js, hjs, -⟩ := h.legacyJoins
      show Collections.pick q.state.current.joins q.state.legacy.joins = q.state.legacy.joins
      rw [h.joins, hjs]
      cases js <;> rfl
    · rw [h.legacyRest t ht, Collections.pick_of_falsy (Collections.truthy_get_empty t)]
      cases t <;> first | rfl | exact absurd rfl ht
  rw [State.reconciled, hmerge]

/-- A well-typed query has a statement of every kind. -/
theorem exists_statement (h : q.WellTyped) (k : StatementKind) : ∃ sql, q.statement k = .ok sql := by
  obtain ⟨ts, hts, -⟩ := h.tables
  obtain ⟨fs, hfs, -⟩ := h.fields
  obtain ⟨ps, hps, -⟩ := h.predicates
  obtain ⟨os, hos⟩ := h.legacyJoins
  obtain ⟨gs, hgs, -⟩ := h.groups
  obtain ⟨rs, hrs, -⟩ := h.orders
  obtain ⟨n, hn, h0, hlt⟩ := h.limit
  obtain ⟨ins, hins, -, hinsw⟩ := h.insertions
  obtain ⟨ups, hups, -, hupsw⟩ := h.updates
  let o : Outline :=
    { tables := ts, fields := fs.flatMap Fragment.texts, predicates := ps.flatMap Fragment.texts
      joins := os, groups := gs, orders := rs, limit := n
      insertions := ins.map fun w => (w.1, w.2.plainText)
      updates := ups.map fun w => (w.1, w.2.plainText) }
  let s : State :=
    { q.state with current := { q.state.current with joins := .list (os.map JoinOutline.value) } }
  have houtlined : s.Outlined k o :=
    { tables := hts
      fields := hfs ▸ congrArg Except.ok (Fragment.flattenList_values fs)
      predicates := hps ▸ congrArg Except.ok (Fragment.flattenList_values ps)
      joins := rfl
      groups := hgs
      orders := hrs
      limit := hn
      limitWithin := fun _ => withinDigitLimit_of_lt h0 hlt
      insertions := fun _ => ⟨_, hins, mapM_shownEntry_ofWrites fun w hw => (hinsw w hw).2⟩
      updates := fun _ => ⟨_, hups, mapM_shownEntry_ofWrites fun w hw => (hupsw w hw).2⟩ }
  have hjoins : joinsClause q.state.legacy.joins = joinsClause s.current.joins := by
    rw [joinsClause_of_describeAll hos]
    exact (joinsClause_eq os).symm
  refine ⟨o.text k, ?_⟩
  rw [statement, h.reconciled_eq]
  exact (k.render_joins hjoins).trans houtlined.render_eq

theorem exists_rendered (h : q.WellTyped) (w : Preparation) : ∃ sql, q.rendered w = .ok sql := by
  cases w with
  | own =>
    obtain ⟨k, hk⟩ := h.kind
    rw [rendered, hk, StatementKind.ofValue_toValue, ok_bind]
    exact h.exists_statement k
  | of k => exact h.exists_statement k

/-! ### What adds to a query -/

theorem addTable (h : q.WellTyped) (name short : String) :
    ∃ q', q.addTable (.text name) (.text short) = .ok q' ∧ q'.WellTyped := by
  by_cases hname : name = ""
  · exact ⟨q, by rw [Query.addTable, hname]; rfl, h⟩
  · obtain ⟨p, hp⟩ := h.tablePrefix
    have hshort : orOther short name ≠ "" := by
      by_cases hs : short = "" <;> simp [orOther, hs, hname]
    obtain ⟨tables, hput, htables⟩ := h.tables.assign hshort (x := p ++ name) trivial
    refine ⟨q.setMember (.slot .tables) tables, ?_, { h with tables := htables }⟩
    have htruthy : (Value.text name).truthy = true := bne_iff_ne.mpr hname
    rw [Query.addTable, if_pos htruthy, tableName, hp, orElse_text]
    simp only [Value.shown_text, ok_bind, hput]

theorem addJoin (h : q.WellTyped) (name short condition type : String) :
    ∃ q', q.addJoin (.text name) (.text short) (.text condition) (.text type) = .ok q' ∧
      q'.WellTyped := by
  obtain ⟨p, hp⟩ := h.tablePrefix
  obtain ⟨os, js, hjs, hall⟩ := h.legacyJoins
  let o : JoinOutline := ⟨p ++ name, orOther short name, condition, type⟩
  refine ⟨q.setLegacy .joins (.list (js ++ [o.value])), ?_,
    { h with
      legacyJoins := ⟨os ++ [o], _, rfl, List.rel_append hall (.cons o.describes_value .nil)⟩
      legacyRest := fun t ht => (Collections.get_set ..).trans ?_ }⟩
  · rw [Query.addJoin, hjs, tableName, hp, orElse_text]
    rfl
  · rw [if_neg ht]
    exact h.legacyRest t ht

/-- A fragment comes last in its list, or is passed over. -/
theorem addFragment_of_listsOf {s : Slot} {α : Type} {f : α → Value} {P : α → Prop}
    (h : (q.state.current.get s).ListsOf f P) {x : α} (hx : (f x).truthy = true → P x) :
    ∃ q', q.addFragment s (f x) = .ok q' ∧
      (q' = q ∨ ∃ v : Value, v.ListsOf f P ∧ q' = q.setMember (.slot s) v) := by
  rw [addFragment]
  by_cases ht : (f x).truthy = true
  · obtain ⟨v, happend, hv⟩ := h.append (hx ht)
    refine ⟨_, ?_, .inr ⟨v, hv, rfl⟩⟩
    rw [if_pos ht, happend, ok_bind]
  · exact ⟨q, if_neg ht, .inl rfl⟩

theorem addFields (h : q.WellTyped) (f : Fragment) :
    ∃ q', q.addFields f.value = .ok q' ∧ q'.WellTyped := by
  obtain ⟨q', hq', rfl | ⟨v, hv, rfl⟩⟩ :=
    addFragment_of_listsOf (s := .fields) h.fields fun ht => f.truthy_value.symm.trans ht
  · exact ⟨_, hq', h⟩
  · exact ⟨_, hq', { h with fields := hv }⟩

theorem addPredicates (h : q.WellTyped) (f : Fragment) :
    ∃ q', q.addPredicates f.value = .ok q' ∧ q'.WellTyped := by
  obtain ⟨q', hq', rfl | ⟨v, hv, rfl⟩⟩ :=
    addFragment_of_listsOf (s := .predicates) h.predicates fun ht => f.truthy_value.symm.trans ht
  · exact ⟨_, hq', h⟩
  · exact ⟨_, hq', { h with predicates := hv }⟩

theorem addOrder (h : q.WellTyped) (expression : String) :
    ∃ q', q.addOrder (.text expression) = .ok q' ∧ q'.WellTyped := by
  obtain ⟨q', hq', rfl | ⟨v, hv, rfl⟩⟩ :=
    addFragment_of_listsOf (s := .orders) h.orders (x := expression) bne_iff_ne.mp
  · exact ⟨_, hq', h⟩
  · exact ⟨_, hq', { h with orders := hv }⟩

theorem addGroup (h : q.WellTyped) (expression : String) :
    ∃ q', q.addGroup (.text expression) = .ok q' ∧ q'.WellTyped := by
  obtain ⟨q', hq', rfl | ⟨v, hv, rfl⟩⟩ :=
    addFragment_of_listsOf (s := .groups) h.groups (x := expression) bne_iff_ne.mp
  · exact ⟨_, hq', h⟩
  · exact ⟨_, hq', { h with groups := hv }⟩

theorem setDelete (h : q.WellTyped) (name : String) :
    ∃ q', q.setDelete (.text name) = .ok q' ∧ q'.WellTyped := by
  obtain ⟨r, hr, hwell⟩ := h.addTable name ""
  refine ⟨r.setKind StatementKind.delete.toValue, ?_, { hwell with kind := ⟨.delete, rfl⟩ }⟩
  rw [Query.setDelete, hr, ok_bind]

/-- A limit that is not above zero is passed over. -/
theorem setLimit (h : q.WellTyped) {v : Value} (hv : v.ShortLimit) :
    ∃ q' notices, q.setLimit v = .ok (q', notices) ∧ q'.WellTyped := by
  obtain ⟨n, hn, hlt⟩ := exists_limitOf_of_short hv
  by_cases hpos : 0 < n
  · refine ⟨q.setMember .limit (.int n), [], ?_, { h with limit := ⟨n, rfl, hpos.le, hlt⟩ }⟩
    rw [Query.setLimit, hn, ok_bind, if_pos hpos]
  · refine ⟨q, limitNotice v, ?_, h⟩
    rw [Query.setLimit, hn, ok_bind, if_neg hpos]

/-! ### Assignments -/

/-- One more pair sets an entry, or is passed over. -/
theorem assignOne_of_namesOf {target : Value} (h : target.NamesOf id Value.Writable) (raw : Bool)
    (field : String) {v : Value} (hv : field ≠ "" → v.Writable) :
    ∃ t, assignOne raw target (.text field) v = .ok t ∧ t.NamesOf id Value.Writable := by
  by_cases hf : field = ""
  · exact ⟨target, by rw [assignOne, hf]; rfl, h⟩
  · have hwritable : (Pairing.expressionOf raw v).Writable := by
      cases raw with
      | true => exact hv hf
      | false => exact List.forall_mem_nil _
    obtain ⟨t, ht, hnames⟩ := h.assign hf hwritable
    have htruthy : (Value.text field).truthy = true := bne_iff_ne.mpr hf
    refine ⟨t, ?_, hnames⟩
    rw [assignOne, if_pos htruthy, expression_eq fun _ => hv hf, ok_bind]
    exact ht

/-- Pairs are assigned one after the other. -/
theorem assignEach_of_namesOf {target : Value} (h : target.NamesOf id Value.Writable) (raw : Bool)
    {ws : List (String × Value)} (hws : ∀ w ∈ ws, w.1 ≠ "" → w.2.Writable) :
    ∃ t, assignEach raw target (ws.map fun w => (.text w.1, w.2)) = (t, .ok ()) ∧
      t.NamesOf id Value.Writable := by
  induction ws generalizing target with
  | nil => exact ⟨target, rfl, h⟩
  | cons w ws ih =>
    obtain ⟨hw, hrest⟩ := List.forall_mem_cons.mp hws
    obtain ⟨t, ht, hnames⟩ := assignOne_of_namesOf h raw w.1 hw
    obtain ⟨u, hu, hunames⟩ := ih hnames hrest
    refine ⟨u, ?_, hunames⟩
    rw [List.map_cons, assignEach, ht]
    exact hu

theorem setMember_assignment (h : q.WellTyped) (a : Assignment) {t : Value}
    (ht : t.NamesOf id Value.Writable) : ((q.setMember a.member t).setKind a.kind.toValue).WellTyped := by
  cases a with
  | insert | replace => exact { h with insertions := ht, kind := ⟨_, rfl⟩ }
  | update => exact { h with updates := ht, kind := ⟨_, rfl⟩ }

/-- Values that do not match their fields are passed over; the kind of statement is set all the same. -/
theorem assign (h : q.WellTyped) (a : Assignment) {w : Pairing} (raw : Bool)
    (hw : ∀ e ∈ w.pairs, e.1 ≠ "" → e.2.Writable) :
    (q.assign a w.fields w.values raw).2.1 = .ok () ∧
      (q.assign a w.fields w.values raw).1.WellTyped := by
  have htarget : (q.state.get a.member).NamesOf id Value.Writable := by
    cases a with
    | insert | replace => exact h.insertions
    | update => exact h.updates
  obtain ⟨o, ho, hpairs⟩ := w.pairsFor_eq
  unfold Query.assign
  rw [ho]
  cases o with
  | none => exact ⟨rfl, { h with kind := ⟨a.kind, rfl⟩ }⟩
  | some ps =>
    obtain ⟨t, ht, hnames⟩ := assignEach_of_namesOf htarget raw hw
    rw [Option.getD_some] at hpairs
    subst hpairs
    simp only [ht]
    exact ⟨trivial, h.setMember_assignment a hnames⟩

/-! ### Calls -/

theorem ofUpdate {r : Except Fault Query} (h : ∃ q', r = .ok q' ∧ q'.WellTyped) :
    (∃ a, (Effect.ofUpdate q r).silent.answer = .ok a) ∧
      (Effect.ofUpdate q r).silent.query.WellTyped := by
  obtain ⟨q', rfl, hq'⟩ := h
  exact ⟨⟨_, rfl⟩, hq'⟩

theorem on (h : q.WellTyped) (w : Preparation) (clears : Bool) :
    (∃ a, ((w.on q clears).answering .text).answer = .ok a) ∧
      ((w.on q clears).answering .text).query.WellTyped := by
  obtain ⟨sql, hsql⟩ := h.exists_rendered w
  obtain ⟨p, hp⟩ := h.tablePrefix
  constructor
  · exact exists_map_iff.mpr ⟨sql, (w.answer_on q clears).trans hsql⟩
  · show (w.on q clears).query.WellTyped
    rw [Preparation.query_on_of_text hsql]
    cases clears with
    | true => exact cleared hp
    | false => exact h

/-- **One call.** A well-typed call on a well-typed query succeeds and leaves a well-typed query. -/
theorem step (h : q.WellTyped) {u : Usage} (hu : u.WellTyped) :
    (∃ a, (q.step u.call).answer = .ok a) ∧ (q.step u.call).query.WellTyped := by
  cases u with
  | clear =>
    obtain ⟨p, hp⟩ := h.tablePrefix
    exact ⟨⟨_, rfl⟩, cleared hp⟩
  | consume w =>
    cases w with
    | own => exact h.on .own true
    | of k => exact h.on (.of k) true
  | contribute c =>
    cases c with
    | table name short => exact ofUpdate (h.addTable name short)
    | fields f => exact ofUpdate (h.addFields f)
    | predicates f => exact ofUpdate (h.addPredicates f)
    | order expression => exact ofUpdate (h.addOrder expression)
    | group expression => exact ofUpdate (h.addGroup expression)
    | join name short condition type => exact ofUpdate (h.addJoin name short condition type)
    | delete name => exact ofUpdate (h.setDelete name)
    | limit v =>
      obtain ⟨q', notices, hq', hwell⟩ := h.setLimit hu
      show (∃ a, (q.limitEffect v).silent.answer = .ok a) ∧ (q.limitEffect v).query.WellTyped
      rw [limitEffect, hq']
      exact ⟨⟨_, rfl⟩, hwell⟩
    | assign a w raw =>
      obtain ⟨hanswer, hwell⟩ := h.assign a raw hu
      exact ⟨exists_map_iff.mpr ⟨(), hanswer⟩, hwell⟩
    | prepare w =>
      cases w with
      | own => exact h.on .own false
      | of k => exact h.on (.of k) false

/-- **A session.** Every call of a well-typed session succeeds, and the query stays well typed. -/
theorem run (h : q.WellTyped) {us : List Usage} (hus : ∀ u ∈ us, u.WellTyped) :
    (∀ e ∈ q.run (us.map Usage.call), ∃ a, e.answer = .ok a) ∧
      (q.after (us.map Usage.call)).WellTyped := by
  induction us generalizing q with
  | nil => exact ⟨fun e he => absurd he List.not_mem_nil, h⟩
  | cons u us ih =>
    obtain ⟨hu, hrest⟩ := List.forall_mem_cons.mp hus
    obtain ⟨hanswer, hstep⟩ := h.step hu
    obtain ⟨hanswers, hafter⟩ := ih hstep hrest
    rw [List.map_cons, run_cons]
    exact ⟨List.forall_mem_cons.mpr ⟨hanswer, hanswers⟩, hafter⟩

end Query.WellTyped

namespace Query

/-- A query with a text for its prefix, whether it was handed over or looked up. -/
theorem wellTyped_of_create {tablePrefix : Value} {source : PrefixSource} {connection : Option String}
    {q : Query} (h : create tablePrefix source connection = .ok q) (hp : ∃ p, q.tablePrefix = .text p) :
    q.WellTyped := by
  obtain ⟨p, hp⟩ := hp
  rw [← create_clear h]
  exact WellTyped.cleared hp

/-- A text is a prefix, except that another one is looked up in place of an empty one. -/
theorem exists_create {p : String} {source : PrefixSource} (h : p ≠ "" ∨ source = .nothing)
    (connection : Option String) :
    ∃ q, create (.text p) source connection = .ok q ∧ q.tablePrefix = .text p := by
  refine ⟨blank (.text p) connection, ?_, rfl⟩
  unfold create
  by_cases hp : p = ""
  · rw [h.resolve_left fun hne => hne hp, hp]
    rfl
  · exact if_pos (bne_iff_ne.mpr hp)

/-- **Well-typed sessions succeed.** A query that is made with a prefix, handed over or looked up, is well
typed if the prefix is a text. A well-typed query has a statement of every kind. No call of a well-typed
session fails, not even one that assigns values which do not match their fields or one without a name; and
the query stays well typed. -/
theorem well_typed_session_succeeds :
    (∀ (p : String) (source : PrefixSource) (connection : Option String),
      p ≠ "" ∨ source = .nothing →
        ∃ q, create (.text p) source connection = .ok q ∧ q.tablePrefix = .text p) ∧
    (∀ (tablePrefix : Value) (source : PrefixSource) (connection : Option String) (q : Query),
      create tablePrefix source connection = .ok q → (∃ p, q.tablePrefix = .text p) → q.WellTyped) ∧
    ∀ q : Query, q.WellTyped →
      (∀ k, ∃ sql, q.statement k = .ok sql) ∧
      ∀ us : List Usage, (∀ u ∈ us, u.WellTyped) →
        (∀ e ∈ q.run (us.map Usage.call), ∃ a, e.answer = .ok a) ∧
          (q.after (us.map Usage.call)).WellTyped := by
  refine ⟨fun p source connection h => ?_, fun tablePrefix source connection q h hp => ?_,
    fun q hq => ⟨fun k => ?_, fun us hus => ?_⟩⟩
  · exact exists_create h connection
  · exact wellTyped_of_create h hp
  · exact hq.exists_statement k
  · exact hq.run hus

/-- Values that do not match their fields, a field and a table without a name, and a limit in a text. -/
theorem well_typed_session_succeeds_mismatched :
    let us : List Usage := [.contribute (.assign .update (.all .tuple ["a", "b"] (.list [.int 1])) false),
      .contribute (.assign .update (.all .list ["", "c"] (.tuple [.list [], .text "it's"])) false),
      .contribute (.limit (.text "7 rows")), .contribute (.join "t" "" "x = y" "Full"),
      .contribute (.prepare (.of .select)), .consume .own, .contribute (.delete "")]
    let q := blank (.text "p_") none
    (∀ e ∈ q.run (us.map Usage.call), ∃ a, e.answer = .ok a) ∧
      ((q.after (us.map Usage.call)).prepare false).answer = .ok "DELETE FROM   " := by
  intro us q
  have hq : q.WellTyped :=
    well_typed_session_succeeds.2.1 (.text "p_") .nothing none q rfl ⟨"p_", rfl⟩
  have hlimit : (Value.text "7 rows").ShortLimit :=
    fun ds hds _ => hds.length_le.trans (by decide)
  have hus : ∀ u ∈ us, u.WellTyped := by
    refine List.forall_mem_cons.mpr ⟨nofun, List.forall_mem_cons.mpr ⟨?_,
      List.forall_mem_cons.mpr ⟨hlimit, ?_⟩⟩⟩
    · show ∀ e ∈ [("", Value.list []), ("c", Value.text "it's")], e.1 ≠ "" → e.2.Writable
      decide
    · intro u hu
      simp only [List.mem_cons, List.not_mem_nil, or_false] at hu
      obtain rfl | rfl | rfl | rfl := hu <;> trivial
  exact ⟨((well_typed_session_succeeds.2.2 q hq).2 us hus).1, by decide +kernel⟩

end Query

end SqlDraft
