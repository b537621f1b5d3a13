import SqlDraft.Proofs.Collecting
import SqlDraft.Proofs.Relocation
import SqlDraft.Proofs.Writes

/-!
# Groups of fragments

A group of expressions or predicates is one entry of its collection, and is opened when the statement is written.
So it makes no difference how a sequence of texts is cut into groups, unless a group holds an empty text: a text on
its own is passed over if it is empty, one in a group is not.

* `Listing`: the collections whose entries may be groups.
* `Fragment.Tidy`, `Listing.after_fragments`: groups without empty texts, and the collection after fragments.
* `StatementKind.render_of_flatten`: a statement depends on what a listing holds when its groups are opened.
* `State.Tidy`, `Query.step_tidy`, `Query.after_tidy`: no call makes an empty item, unless it brings one in a group.
* `Query.grouping_immaterial`: both together.
-/

namespace SqlDraft

/-- The collections whose entries may be groups. -/
inductive Listing
  | fields
  | predicates

namespace Listing

/-- The collection. -/
def slot : Listing → Slot
  | fields => .fields
  | predicates => .predicates

/-- The call that adds a fragment. -/
def call : Listing → Value → Call
  | fields => .addFields
  | predicates => .addPredicates

end Listing

/-- A fragment that is no group with an empty text in it. -/
def Fragment.Tidy : Fragment → Prop
  | one _ => True
  | group _ ss => "" ∉ ss

instance (f : Fragment) : Decidable f.Tidy :=
  match f with
  | .one _ => isTrue trivial
  | .group _ ss => inferInstanceAs (Decidable ("" ∉ ss))

/-! ## Adding fragments -/

namespace Fragment

/-- The texts of a tidy fragment that counts as present are those that are not empty, and it counts as present only
if there are any. -/
theorem texts_of_tidy {f : Fragment} (h : f.Tidy) :
    (if f.present then f.texts else []) = f.texts.filter (· ≠ "") ∧
      (f.present = true ↔ f.texts.filter (· ≠ "") ≠ []) := by
  cases f with
  | one s => by_cases hs : s = "" <;> simp [present, texts, hs]
  | group c ss =>
    have hall : ss.filter (· ≠ "") = ss := by
      refine List.filter_eq_self.mpr fun s hs => decide_eq_true ?_
      rintro rfl
      exact h hs
    rw [texts, hall]
    cases ss <;> simp [present]

/-- What is left of tidy fragments when their groups are opened. -/
theorem flatMap_present {fs : List Fragment} (h : ∀ f ∈ fs, f.Tidy) :
    (fs.filter present).flatMap texts = (fs.flatMap texts).filter (· ≠ "") := by
  induction fs with
  | nil => rfl
  | cons f fs ih =>
    obtain ⟨hf, hfs⟩ := List.forall_mem_cons.mp h
    rw [List.flatMap_cons, List.filter_append, ← ih hfs, ← (texts_of_tidy hf).1, List.filter_cons]
    split <;> simp_all

theorem filter_present_eq_nil {fs : List Fragment} (h : ∀ f ∈ fs, f.Tidy) :
    fs.filter present = [] ↔ (fs.flatMap texts).filter (· ≠ "") = [] := by
  rw [← flatMap_present h, List.flatMap_eq_nil_iff]
  refine ⟨fun hnil => by simp [hnil], fun htexts => ?_⟩
  refine List.eq_nil_iff_forall_not_mem.mpr fun f hf => ?_
  obtain ⟨hmem, hpresent⟩ := List.mem_filter.mp hf
  have hne := (texts_of_tidy (h f hmem)).2.mp hpresent
  rw [htexts f hf] at hne
  exact hne rfl

/-- Texts one by one leave the same behind. -/
theorem flatMap_map_one (ss : List String) : (ss.map one).flatMap texts = ss := by
  induction ss with
  | nil => rfl
  | cons s ss ih => rw [List.map_cons, List.flatMap_cons, ih]; rfl

end Fragment

namespace Listing

variable (l : Listing) {q : Query}

theorem step_call_query (v : Value) :
    (q.step (l.call v)).query = (Effect.ofUpdate q (q.addFragment l.slot v)).query := by
  cases l <;> rfl

/-- Fragments that count as present come last, one entry each. -/
theorem after_fragments {xs : List Value} (hxs : q.state.current.get l.slot = .list xs) (fs : List Fragment) :
    q.after (fs.map fun f => l.call f.value) =
      q.setMember (.slot l.slot) (.list (xs ++ (fs.filter Fragment.present).map Fragment.value)) := by
  induction fs generalizing q xs with
  | nil =>
    simp only [List.filter_nil, List.map_nil, List.append_nil]
    rw [← hxs]
    exact (q.setMember_get (.slot l.slot)).symm
  | cons f fs ih =>
    have hstep : (q.step (l.call f.value)).query =
        if f.present then q.setMember (.slot l.slot) (.list (xs ++ [f.value])) else q := by
      rw [step_call_query, Query.addFragment_eq xs hxs, f.truthy_value]
      rfl
    show (q.step (l.call f.value)).query.after (fs.map fun f => l.call f.value) = _
    rw [hstep]
    by_cases hf : f.present = true
    · have hget : (q.setMember (.slot l.slot) (.list (xs ++ [f.value]))).state.current.get l.slot =
          .list (xs ++ [f.value]) := by cases l <;> rfl
      rw [if_pos hf, ih hget, Query.setMember_setMember, List.filter_cons_of_pos hf, List.map_cons,
        List.append_assoc]
      rfl
    · rw [if_neg hf, ih hxs, List.filter_cons_of_neg hf]

/-- A fragment cannot be added to anything but a list. -/
theorem after_fragments_of_not_list (hlist : ∀ xs, q.state.current.get l.slot ≠ .list xs) (vs : List Value) :
    q.after (vs.map l.call) = q := by
  induction vs with
  | nil => rfl
  | cons v vs ih =>
    have hstep : (q.step (l.call v)).query = q := by
      rw [step_call_query, Query.addFragment]
      split
      · have happend : (q.state.current.get l.slot).append v =
            .error (.noMember (q.state.current.get l.slot).kind "append") := by
          cases hget : q.state.current.get l.slot with
          | list xs => exact absurd hget (hlist xs)
          | _ => rfl
        rw [happend]
        rfl
      · rfl
    show (q.step (l.call v)).query.after (vs.map l.call) = q
    rw [hstep, ih]

end Listing

/-! ## Statements -/

/-- A statement depends on a listing only by what it holds when its groups are opened. -/
theorem StatementKind.render_of_flatten (k : StatementKind) (l : Listing) {s : State} {v w : Value}
    (h : flatten v = flatten w) : k.render (s.set (.slot l.slot) v) = k.render (s.set (.slot l.slot) w) := by
  have hfields : fieldsClause v = fieldsClause w := by rw [fieldsClause, fieldsClause, h]
  have hpredicates : whereClause v = whereClause w := by rw [whereClause, whereClause, h]
  cases l with
  | fields =>
    cases k with
    | select =>
      show selectStatement _ = selectStatement _
      unfold selectStatement
      simp only [Listing.slot, State.set, Collections.set, hfields]
    | insert | insertSelect | replace | update | delete => rfl
  | predicates =>
    cases k with
    | select =>
      show selectStatement _ = selectStatement _
      unfold selectStatement
      simp only [Listing.slot, State.set, Collections.set, hpredicates]
    | update =>
      show updateStatement _ = updateStatement _
      unfold updateStatement
      simp only [Listing.slot, State.set, Collections.set, hpredicates]
    | delete =>
      show deleteStatement _ = deleteStatement _
      unfold deleteStatement
      simp only [Listing.slot, State.set, Collections.set, hpredicates]
    | insert | insertSelect | replace => rfl

/-- Filling up the other collections does not mind what stands in one. -/
theorem Collections.merge_set (current legacy : Collections) (s : Slot) (v : Value) :
    (current.set s v).merge legacy = (current.merge legacy).set s (pick v (legacy.get s)) := by
  ext t
  rw [get_merge, get_set, get_set, get_merge]
  by_cases h : t = s
  · rw [if_pos h, if_pos h, h]
  · rw [if_neg h, if_neg h]

namespace Query

variable {q : Query} {l : Listing}

/-- Lists that hold the same when their groups are opened, and are empty at the same time, give the same
statements. -/
theorem rendered_of_flattenList (q : Query) (l : Listing) {vs ws : List Value}
    (hflatten : flattenList vs = flattenList ws) (hnil : vs = [] ↔ ws = []) (w : Preparation) :
    (q.setMember (.slot l.slot) (.list vs)).rendered w = (q.setMember (.slot l.slot) (.list ws)).rendered w := by
  have hpick : flatten (Collections.pick (.list vs) (q.state.legacy.get l.slot)) =
      flatten (Collections.pick (.list ws) (q.state.legacy.get l.slot)) := by
    by_cases h : vs = []
    · rw [h, hnil.mp h]
    · have hpresent {us : List Value} (hus : us ≠ []) : (Value.list us).truthy = true := by
        cases us with
        | nil => exact absurd rfl hus
        | cons => rfl
      rw [Collections.pick_of_truthy (hpresent h), Collections.pick_of_truthy (hpresent (mt hnil.mpr h))]
      exact congrArg Except.ok hflatten
  have hstatement (k : StatementKind) : (q.setMember (.slot l.slot) (.list vs)).statement k =
      (q.setMember (.slot l.slot) (.list ws)).statement k := by
    have hreconciled (us : List Value) : (q.setMember (.slot l.slot) (.list us)).state.reconciled =
        q.state.reconciled.set (.slot l.slot) (Collections.pick (.list us) (q.state.legacy.get l.slot)) :=
      congrArg (fun c => { q.state with current := c }) (Collections.merge_set ..)
    rw [statement, statement, hreconciled, hreconciled]
    exact k.render_of_flatten l hpick
  cases w with
  | own =>
    rw [rendered, rendered]
    show (StatementKind.ofValue q.kind >>= _) = (StatementKind.ofValue q.kind >>= _)
    simp only [hstatement]
  | of k => exact hstatement k

/-- However a sequence of texts is cut into tidy fragments, they are written like the texts one by one. -/
theorem rendered_after_fragments (q : Query) (l : Listing) {fs : List Fragment} (h : ∀ f ∈ fs, f.Tidy)
    (w : Preparation) :
    (q.after (fs.map fun f => l.call f.value)).rendered w =
      (q.after ((fs.flatMap Fragment.texts).map fun s => l.call (.text s))).rendered w := by
  by_cases hlist : ∃ xs, q.state.current.get l.slot = .list xs
  · obtain ⟨xs, hxs⟩ := hlist
    set ones := (fs.flatMap Fragment.texts).map Fragment.one with hones
    have hcalls : (fs.flatMap Fragment.texts).map (fun s => l.call (.text s)) =
        ones.map fun f => l.call f.value := by
      rw [hones, List.map_map]
      rfl
    have hones' : ∀ f ∈ ones, f.Tidy := by
      intro f hf
      obtain ⟨s, -, rfl⟩ := List.mem_map.mp hf
      trivial
    have htexts : ones.flatMap Fragment.texts = fs.flatMap Fragment.texts := Fragment.flatMap_map_one _
    rw [hcalls, l.after_fragments hxs, l.after_fragments hxs]
    refine q.rendered_of_flattenList l ?_ ?_ w
    · rw [flattenList_append, flattenList_append, Fragment.flattenList_values, Fragment.flattenList_values,
        Fragment.flatMap_present h, Fragment.flatMap_present hones', htexts]
    · rw [List.append_eq_nil_iff, List.append_eq_nil_iff, List.map_eq_nil_iff, List.map_eq_nil_iff,
        Fragment.filter_present_eq_nil h, Fragment.filter_present_eq_nil hones', htexts]
  · have hnone := l.after_fragments_of_not_list fun xs hxs => hlist ⟨xs, hxs⟩
    have hmap {α : Type} (f : α → Value) (as : List α) :
        q.after (as.map fun a => l.call (f a)) = q :=
      (congrArg q.after List.map_map.symm).trans (hnone (as.map f))
    rw [hmap, hmap]

end Query

/-! ## Items -/

/-- A value among whose items no empty text is found when its groups are opened. -/
def Value.NoEmptyItem (v : Value) : Prop := ∀ items, flatten v = .ok items → .text "" ∉ items

/-- The calls that bring no empty text into a listing. A fragment that is added is passed over if it does not count
as present. -/
def Call.Tidy : Call → Prop
  | addFields v | addPredicates v => v.truthy = true → .text "" ∉ flattenList [v]
  | setMember (.slot .fields) v | setMember (.slot .predicates) v => v.NoEmptyItem
  | setLegacy .fields v | setLegacy .predicates v => v.NoEmptyItem
  | appendLegacy .fields v | appendLegacy .predicates v => .text "" ∉ flattenList [v]
  | _ => True

/-- The states whose listings hold no empty items, under the current and under the older names. -/
structure State.Tidy (s : State) : Prop where
  current : ∀ l : Listing, (s.current.get l.slot).NoEmptyItem
  legacy : ∀ l : Listing, (s.legacy.get l.slot).NoEmptyItem

theorem Value.NoEmptyItem.append {v w x : Value} (hv : v.NoEmptyItem) (hx : .text "" ∉ flattenList [x])
    (h : v.append x = .ok w) : w.NoEmptyItem := by
  cases v with
  | list xs =>
    cases h
    intro items hitems
    have hxs := hv _ rfl
    cases hitems
    rw [flattenList_append, List.mem_append, not_or]
    exact ⟨hxs, hx⟩
  | _ => cases h

theorem Value.NoEmptyItem.pick {v w : Value} (hv : v.NoEmptyItem) (hw : w.NoEmptyItem) :
    (Collections.pick v w).NoEmptyItem := by
  unfold Collections.pick
  split
  · exact hw
  · exact hv

theorem State.tidy_empty : State.empty.Tidy where
  current l := by cases l <;> exact fun items h => by cases h; exact List.not_mem_nil
  legacy l := by cases l <;> exact fun items h => by cases h; exact List.not_mem_nil

namespace Query

variable {q : Query} {c : Call} {l : Listing}

/-- What a tidy call writes to a listing has no empty items. -/
theorem noEmptyItem_of_writes (hq : q.state.Tidy) (hc : c.Tidy) {v : Value} (h : c.Writes q (.slot l.slot) v) :
    v.NoEmptyItem := by
  generalize hm : Member.slot l.slot = m at h
  cases h with
  | table | deletion => cases l <;> cases hm
  | @fragment _ s fragment v hf htruthy happend =>
    obtain rfl := Member.slot.inj hm
    have hfragment : .text "" ∉ flattenList [fragment] := by
      cases l <;> cases c <;> cases hf <;> exact hc htruthy
    exact (hq.current l).append hfragment happend
  | limit => cases hm
  | assignment a => cases a <;> cases hm
  | set => subst hm; cases l <;> exact hc

theorem noEmptyItem_of_writesLegacy (hq : q.state.Tidy) (hc : c.Tidy) {v : Value}
    (h : c.WritesLegacy q l.slot v) : v.NoEmptyItem := by
  generalize ht : l.slot = t at h
  cases h with
  | join => cases l <;> cases ht
  | append happend => subst ht; cases l <;> exact (hq.legacy _).append hc happend
  | set => subst ht; cases l <;> exact hc

/-- **One call.** A tidy call makes no empty item. -/
theorem step_tidy (hq : q.state.Tidy) (hc : c.Tidy) : (q.step c).query.state.Tidy := by
  have hleaves := q.leaves_step c
  generalize (q.step c).query.state = s at hleaves ⊢
  cases hleaves with
  | same => exact hq
  | cleared => exact State.tidy_empty
  | @member m v h =>
    have hlegacy : (q.state.set m v).legacy = q.state.legacy := by cases m <;> rfl
    refine ⟨fun l => ?_, fun l => hlegacy ▸ hq.legacy l⟩
    have hget : (q.state.set m v).current.get l.slot =
        if Member.slot l.slot = m then v else q.state.current.get l.slot :=
      q.state.get_set m (.slot l.slot) v
    rw [hget]
    split
    · rename_i hm
      exact noEmptyItem_of_writes hq hc (hm ▸ h)
    · exact hq.current l
  | @legacy t v h =>
    refine ⟨hq.current, fun l => ?_⟩
    show ((q.state.legacy.set t v).get l.slot).NoEmptyItem
    rw [Collections.get_set]
    split
    · rename_i ht
      exact noEmptyItem_of_writesLegacy hq hc (ht ▸ h)
    · exact hq.legacy l

/-- **A history.** Tidy calls make no empty item. -/
theorem after_tidy (hq : q.state.Tidy) {cs : List Call} (hcs : ∀ c ∈ cs, c.Tidy) : (q.after cs).state.Tidy := by
  induction cs generalizing q with
  | nil => exact hq
  | cons c cs ih =>
    obtain ⟨hc, hrest⟩ := List.forall_mem_cons.mp hcs
    exact ih (step_tidy hq hc) hrest

theorem Fresh.tidy (hq : q.Fresh) : q.state.Tidy := by
  rw [← hq.clear_eq]
  exact State.tidy_empty

end Query

/-! ## Clauses -/

/-- Values that are joined are texts. -/
theorem Value.texts_of_textsFrom {i : Nat} {vs : List Value} {ss : List String}
    (h : textsFrom i vs = .ok ss) : vs = ss.map .text := by
  induction vs generalizing i ss with
  | nil => cases h; rfl
  | cons v vs ih =>
    cases v with
    | text s =>
      obtain ⟨rest, hrest, rfl⟩ := map_eq_ok_iff.mp h
      rw [ih hrest]
      rfl
    | _ => cases h

theorem Value.texts_of_joinedList {sep joined : String} {vs : List Value}
    (h : joinedList sep vs = .ok joined) :
    ∃ ss : List String, vs = ss.map .text ∧ joined = sep.intercalate ss := by
  obtain ⟨ss, hss, rfl⟩ := map_eq_ok_iff.mp h
  exact ⟨ss, texts_of_textsFrom hss, rfl⟩

/-- Items that are joined are texts, and none of them is empty. -/
theorem Value.NoEmptyItem.items_of_joinedList {v : Value} (hv : v.NoEmptyItem) {w : Value} {ws : List Value}
    (hvs : flatten v = .ok (w :: ws)) {sep joined : String} (h : joinedList sep (w :: ws) = .ok joined) :
    ∃ items : List String, flatten v = .ok (items.map .text) ∧ (∀ i ∈ items, i ≠ "") ∧ items ≠ [] ∧
      joined = sep.intercalate items := by
  obtain ⟨items, hitems, rfl⟩ := Value.texts_of_joinedList h
  rw [hitems] at hvs
  refine ⟨items, hvs, fun i hi => ?_, ?_, rfl⟩
  · rintro rfl
    exact hv _ hvs (List.mem_map_of_mem hi)
  · rintro rfl
    cases hitems

/-- The items of a select list are those of its groups, and none is empty. -/
theorem fieldsClause_of_noEmptyItem {v : Value} (hv : v.NoEmptyItem) {clause : String}
    (h : fieldsClause v = .ok clause) :
    ∃ items : List String, flatten v = .ok (items.map .text) ∧ (∀ i ∈ items, i ≠ "") ∧
      clause = if items = [] then "*" else ",".intercalate items := by
  obtain ⟨vs, hvs, h⟩ := bind_eq_ok_iff.mp h
  cases vs with
  | nil =>
    cases h
    exact ⟨[], hvs, nofun, rfl⟩
  | cons w ws =>
    obtain ⟨items, hitems, hnonempty, hne, rfl⟩ := hv.items_of_joinedList hvs h
    exact ⟨items, hitems, hnonempty, (if_neg hne).symm⟩

/-- The predicates are those of the groups, none is empty, and without any there is no `WHERE`. -/
theorem whereClause_of_noEmptyItem {v : Value} (hv : v.NoEmptyItem) {clause : String}
    (h : whereClause v = .ok clause) :
    ∃ items : List String, flatten v = .ok (items.map .text) ∧ (∀ i ∈ items, i ≠ "") ∧
      clause = if items = [] then "" else "WHERE " ++ " AND ".intercalate items := by
  obtain ⟨vs, hvs, h⟩ := bind_eq_ok_iff.mp h
  cases vs with
  | nil =>
    cases h
    exact ⟨[], hvs, nofun, rfl⟩
  | cons w ws =>
    obtain ⟨joined, hjoined, h⟩ := bind_eq_ok_iff.mp h
    cases h
    obtain ⟨items, hitems, hnonempty, hne, rfl⟩ := hv.items_of_joinedList hvs hjoined
    exact ⟨items, hitems, hnonempty, (if_neg hne).symm⟩

namespace Query

/-- **Groups do not matter.** Whatever a query holds: however a sequence of texts is cut into texts and groups
without empty texts, adding these to the select list or to the predicates gives the same statements of every
kind as adding the texts one by one. And after any calls that bring no empty text into a listing, unless on its
own, the items of a select list are the texts that its groups hold, and the predicates likewise; none of them is
empty, and without predicates there is no `WHERE`. -/
theorem grouping_immaterial :
    (∀ (q : Query) (l : Listing) (fs : List Fragment), (∀ f ∈ fs, f.Tidy) →
      ∀ (w : Preparation) (clears : Bool),
      (w.on (q.after (fs.map fun f => l.call f.value)) clears).answer =
        (w.on (q.after ((fs.flatMap Fragment.texts).map fun s => l.call (.text s))) clears).answer) ∧
    ∀ q : Query, q.Fresh → ∀ cs : List Call, (∀ c ∈ cs, c.Tidy) →
      let written := (q.after cs).state.reconciled.current
      (∀ clause, fieldsClause written.fields = .ok clause →
        ∃ items : List String, flatten written.fields = .ok (items.map .text) ∧ (∀ i ∈ items, i ≠ "") ∧
          clause = if items = [] then "*" else ",".intercalate items) ∧
      ∀ clause, whereClause written.predicates = .ok clause →
        ∃ items : List String, flatten written.predicates = .ok (items.map .text) ∧ (∀ i ∈ items, i ≠ "") ∧
          clause = if items = [] then "" else "WHERE " ++ " AND ".intercalate items := by
  refine ⟨fun q l fs hfs w clears => ?_, fun q hq cs hcs => ?_⟩
  · rw [w.answer_on, w.answer_on]
    exact q.rendered_after_fragments l hfs w
  · intro written
    have htidy := after_tidy hq.tidy hcs
    exact ⟨fun clause h => fieldsClause_of_noEmptyItem ((htidy.current .fields).pick (htidy.legacy .fields)) h,
      fun clause h =>
        whereClause_of_noEmptyItem ((htidy.current .predicates).pick (htidy.legacy .predicates)) h⟩

/-- Two groups, an empty one and an empty text, and predicates under the older name. -/
theorem grouping_immaterial_mixed :
    let q := blank (.text "") none
    let fs : List Fragment := [.group .list ["a", "b"], .one "", .group .tuple [], .group .tuple ["c"]]
    let cs : List Call := [.addPredicates (.text ""), .setLegacy .predicates (.list [.tuple [.text "p"]])]
    let predicates := (q.after cs).state.reconciled.current.predicates
    ((q.after (fs.map fun f => .addFields f.value)).prepareAs .select false).answer =
        .ok "SELECT a,b,c FROM ()     " ∧
      whereClause predicates = .ok "WHERE p" ∧
      ∃ items : List String, flatten predicates = .ok (items.map .text) ∧ (∀ i ∈ items, i ≠ "") ∧
        "WHERE p" = if items = [] then "" else "WHERE " ++ " AND ".intercalate items := by
  intro q fs cs predicates
  have hq : q.Fresh := .made (show create (.text "") .nothing none = _ from rfl)
  have hcs : ∀ c ∈ cs, c.Tidy := by
    intro c hc
    simp only [cs, List.mem_cons, List.not_mem_nil, or_false] at hc
    rcases hc with rfl | rfl
    · exact fun h => absurd h (by decide)
    · intro items hitems
      cases hitems
      simp [flattenList]
  have hgrouped := grouping_immaterial.1 q .fields fs (by decide) (.of .select) false
  have hwritten : whereClause predicates = .ok "WHERE p" := rfl
  exact ⟨hgrouped.trans rfl, hwritten, (grouping_immaterial.2 q hq cs hcs).2 "WHERE p" hwritten⟩

/-- Empty texts in groups are written, and empty texts on their own are not. -/
theorem empty_text_in_group_written :
    let written (cs : List Call) := (((blank (.text "") none).after cs).prepareAs .select false).answer
    written [.addFields (.list [.text "a", .text ""])] = .ok "SELECT a, FROM ()     " ∧
      written [.addFields (.text "a"), .addFields (.text "")] = .ok "SELECT a FROM ()     " ∧
      written [.addPredicates (.tuple [.text ""])] = .ok "SELECT * FROM ()  WHERE    " ∧
      written [.addPredicates (.text "")] = .ok "SELECT * FROM ()     " :=
  ⟨rfl, rfl, rfl, rfl⟩

end Query

end SqlDraft
