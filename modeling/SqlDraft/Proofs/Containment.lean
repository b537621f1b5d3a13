import SqlDraft.Proofs.Collecting
import SqlDraft.Proofs.Literals

/-!
# Assigned values stay in their place

Whatever the values that are assigned to fields: who cuts the statement at the commas outside of quotes
finds each value in its place, and nothing else.

* `fieldItems`, `valueItems`, `assignmentItems`: the items that are cut out of a statement.
* `Outline.fieldItems_valuesText`, `valueItems_valuesText`, `assignmentItems_updateText`: they are the
  items of the outline, if these are sealed.
* `settled_writes`: fields that are assigned once stand in the order of the assignments, with literals.
* `Query.assigned_values_contained`: after any assignments the items are the literals of the values.
-/

namespace SqlDraft

/-! ## Items of a statement -/

/-- The fields of an inserting statement: between the first parentheses. -/
def fieldItems (sql : String) : List String :=
  (cutOutside [','] 0 false ((behind ['('] sql.toList).takeWhile (· != ')'))).map String.ofList

/-- The values of an inserting statement: from the first `VALUES (` to the last parenthesis. -/
def valueItems (sql : String) : List String :=
  (cutOutside [','] 0 false (beforeLast ')' (behind "VALUES (".toList sql.toList))).map String.ofList

/-- The assignments of an updating statement: from the first `SET` between blanks to the last blank. -/
def assignmentItems (sql : String) : List String :=
  (cutOutside [',', ' '] 0 false (beforeLast ' ' (behind " SET ".toList sql.toList))).map String.ofList

/-- A field name with nothing in it that separates or encloses. -/
def PlainName (name : String) : Prop :=
  name ≠ "" ∧ ∀ c ∈ name.toList, c ≠ ',' ∧ c ≠ singleQuote ∧ c ≠ '(' ∧ c ≠ ')'

/-- A table without blanks and parentheses. -/
def PlainTable (table : String) : Prop := ∀ c ∈ table.toList, c ≠ ' ' ∧ c ≠ '('

instance (name : String) : Decidable (PlainName name) :=
  @instDecidableAnd _ _ _ (List.decidableBAll ..)

instance (table : String) : Decidable (PlainTable table) := List.decidableBAll ..

theorem PlainName.isBare {name : String} (h : PlainName name) : IsBare name.toList :=
  fun c hc => ⟨(h.2 c hc).1, (h.2 c hc).2.1⟩

theorem not_mem_intercalate {c : Char} {sep : String} (hsep : c ∉ sep.toList) {ss : List String}
    (h : ∀ s ∈ ss, c ∉ s.toList) : c ∉ (sep.intercalate ss).toList := by
  induction ss with
  | nil => exact List.not_mem_nil
  | cons s ss ih =>
    have hs := h s List.mem_cons_self
    have hss := ih fun t ht => h t (List.mem_cons_of_mem s ht)
    rcases ss with _ | ⟨t, ts⟩
    · simpa using hs
    · rw [String.intercalate_cons_cons]
      simp only [String.toList_append, List.mem_append, not_or]
      exact ⟨⟨hs, hsep⟩, hss⟩

/-- Sealed texts with a separator between them are cut into these texts. -/
theorem map_cutOutside_intercalate (sep : String) {rest : List Char} (hsep : sep.toList = ',' :: rest)
    (hrest : singleQuote ∉ rest) {ss : List String} (hne : ss ≠ [])
    (h : ∀ s ∈ ss, isSealed false s.toList = true) :
    (cutOutside sep.toList 0 false (sep.intercalate ss).toList).map String.ofList = ss := by
  have hsealed : ∀ x ∈ ss.map String.toList, isSealed false x = true := by
    intro x hx
    obtain ⟨s, hs, rfl⟩ := List.mem_map.mp hx
    exact h s hs
  rw [String.toList_intercalate, hsep,
    cutOutside_intercalate hrest (mt List.map_eq_nil_iff.mp hne) hsealed, List.map_map]
  conv => rhs; rw [← List.map_id ss]
  exact List.map_congr_left fun s _ => String.ofList_toList

namespace Outline

variable {o : Outline}

/-! ## Inserting statements -/

theorem toList_valuesText (verb : String) :
    (o.valuesText verb).toList =
      (verb.toList ++ " INTO ".toList ++ o.target.toList ++ [' ']) ++ '(' ::
        (((",".intercalate (o.insertions.map Prod.fst)).toList ++ ") VALUES ".toList) ++ '(' ::
          ((",".intercalate (o.insertions.map Prod.snd)).toList ++ [')'])) := by
  simp [valuesText]

/-- Nothing encloses a field but the parentheses around the fields. -/
theorem paren_not_mem_fields (hnames : ∀ e ∈ o.insertions, PlainName e.1) {c : Char}
    (hc : c = '(' ∨ c = ')') : c ∉ (",".intercalate (o.insertions.map Prod.fst)).toList := by
  refine not_mem_intercalate ?_ fun name hname hmem => ?_
  · rcases hc with rfl | rfl <;> decide
  · obtain ⟨e, he, rfl⟩ := List.mem_map.mp hname
    obtain ⟨-, -, hopen, hclose⟩ := (hnames e he).2 c hmem
    rcases hc with rfl | rfl
    · exact hopen rfl
    · exact hclose rfl

theorem paren_not_mem_head {verb : String} (hverb : '(' ∉ verb.toList) (htable : PlainTable o.target) :
    '(' ∉ verb.toList ++ " INTO ".toList ++ o.target.toList ++ [' '] := by
  have ht : '(' ∉ o.target.toList := fun h => (htable _ h).2 rfl
  simp [hverb, ht]

theorem fieldItems_valuesText {verb : String} (hverb : '(' ∉ verb.toList)
    (htable : PlainTable o.target) (hne : o.insertions ≠ [])
    (hnames : ∀ e ∈ o.insertions, PlainName e.1) :
    fieldItems (o.valuesText verb) = o.insertions.map Prod.fst := by
  have hfields : ∀ c ∈ (",".intercalate (o.insertions.map Prod.fst)).toList, (c != ')') = true := by
    intro c hc
    refine bne_iff_ne.mpr ?_
    rintro rfl
    exact paren_not_mem_fields hnames (.inr rfl) hc
  have hopen (cs : List Char) : behind ['('] ('(' :: cs) = cs := behind_append_self ['('] cs
  rw [fieldItems, toList_valuesText, behind_of_not_mem (paren_not_mem_head hverb htable), hopen,
    List.append_assoc, List.takeWhile_append_of_pos hfields]
  refine Eq.trans ?_ (map_cutOutside_intercalate "," rfl List.not_mem_nil
    (mt List.map_eq_nil_iff.mp hne) fun name hname => ?_)
  · simp
  · obtain ⟨e, he, rfl⟩ := List.mem_map.mp hname
    exact (hnames e he).isBare.isSealed

/-- A table in front of the fields is taken for the mark of the values only if its name ends in it. -/
theorem not_suffix_head {verb : String} (hvalues : ¬"VALUES".toList <:+ o.target.toList) :
    ¬"VALUES ".toList <:+ verb.toList ++ " INTO ".toList ++ o.target.toList ++ [' '] := by
  intro h
  have hsuffix : "VALUES".toList <:+ (verb.toList ++ " INTO".toList) ++ ' ' :: o.target.toList := by
    have hlast : "VALUES".toList <:+ verb.toList ++ " INTO ".toList ++ o.target.toList :=
      List.suffix_append_self_iff.mp h
    simpa using hlast
  -- no blank stands in the mark, so it ends within the table or is longer than it
  rcases List.suffix_or_suffix_of_suffix hsuffix (List.suffix_append _ _) with h | h
  · rcases List.suffix_cons_iff.mp h with h | h
    · cases h
    · exact hvalues h
  · exact absurd (h.subset List.mem_cons_self) (by decide)

theorem valueItems_valuesText {verb : String} (hverb : '(' ∉ verb.toList)
    (htable : PlainTable o.target) (hvalues : ¬"VALUES".toList <:+ o.target.toList)
    (hne : o.insertions ≠ []) (hnames : ∀ e ∈ o.insertions, PlainName e.1)
    (hsealed : ∀ e ∈ o.insertions, isSealed false e.2.toList = true) :
    valueItems (o.valuesText verb) = o.insertions.map Prod.snd := by
  have hmark : "VALUES (".toList = "VALUES ".toList ++ ['('] := rfl
  have hparen : '(' ∉ "VALUES ".toList := by decide
  have hfields : '(' ∉ (",".intercalate (o.insertions.map Prod.fst)).toList ++ ") VALUES ".toList := by
    intro h
    rcases List.mem_append.mp h with h | h
    · exact paren_not_mem_fields hnames (.inl rfl) h
    · exact absurd h (by decide)
  have hfound : "VALUES ".toList <:+
      (",".intercalate (o.insertions.map Prod.fst)).toList ++ ") VALUES ".toList :=
    List.IsSuffix.trans (by decide) (List.suffix_append _ ") VALUES ".toList)
  rw [valueItems, toList_valuesText, hmark, behind_append_cons hparen (paren_not_mem_head hverb htable),
    if_neg (not_suffix_head hvalues), behind_append_cons hparen hfields, if_pos hfound,
    beforeLast_append_singleton]
  refine map_cutOutside_intercalate "," rfl List.not_mem_nil (mt List.map_eq_nil_iff.mp hne)
    fun value hvalue => ?_
  obtain ⟨e, he, rfl⟩ := List.mem_map.mp hvalue
  exact hsealed e he

/-! ## Updating statements -/

theorem toList_updateText (hpredicates : o.predicates = []) :
    o.updateText.toList = "UPDATE".toList ++ ' ' :: (o.target.toList ++ " SET ".toList ++
      ((", ".intercalate (o.updates.map fun u => u.1 ++ " = " ++ u.2)).toList ++ [' '])) := by
  simp [updateText, predicatesText, hpredicates]

theorem assignmentItems_updateText (hpredicates : o.predicates = []) (htable : PlainTable o.target)
    (hset : o.target ≠ "SET") (hne : o.updates ≠ []) (hnames : ∀ e ∈ o.updates, PlainName e.1)
    (hsealed : ∀ e ∈ o.updates, isSealed false e.2.toList = true) :
    assignmentItems o.updateText = o.updates.map fun u => u.1 ++ " = " ++ u.2 := by
  have hblank : ' ' ∉ o.target.toList := fun h => (htable _ h).1 rfl
  have hstart (cs : List Char) :
      behind " SET ".toList (' ' :: (o.target.toList ++ " SET ".toList ++ cs)) = cs := by
    have hprefix : ¬" SET ".toList <+: ' ' :: (o.target.toList ++ " SET ".toList ++ cs) := by
      intro h
      rw [show " SET ".toList = ' ' :: ("SET".toList ++ [' ']) from rfl, List.cons_prefix_cons,
        List.append_assoc, List.cons_append,
        append_singleton_prefix_iff (by decide) hblank] at h
      exact hset (String.toList_inj.mp h.2).symm
    rw [behind, if_neg fun h => hprefix (List.isPrefixOf_iff_prefix.mp h), List.append_assoc]
    exact (behind_of_not_mem hblank _).trans (behind_append_self " SET ".toList cs)
  have hverb : ' ' ∉ "UPDATE".toList := by decide
  rw [assignmentItems, toList_updateText hpredicates]
  refine Eq.trans ?_ (map_cutOutside_intercalate ", " rfl (by decide) (mt List.map_eq_nil_iff.mp hne)
    fun item hitem => ?_)
  · rw [show " SET ".toList = ' ' :: "SET ".toList from rfl, behind_of_not_mem hverb]
    exact congrArg (fun cs => (cutOutside [',', ' '] 0 false (beforeLast ' ' cs)).map String.ofList)
      (hstart _) |>.trans (by rw [beforeLast_append_singleton]; rfl)
  · obtain ⟨e, he, rfl⟩ := List.mem_map.mp hitem
    have hname : IsBare (e.1.toList ++ " = ".toList) := (hnames e he).isBare.append (by decide)
    rw [String.toList_append, String.toList_append]
    exact isSealed_append hname.isSealed (hsealed e he)

end Outline

/-! ## Assignments -/

namespace Contribution

/-- The pairs of fields and values that a call assigns in a member. -/
def assigned (m : Member) : Contribution → List (String × Value)
  | assign a w _ => if a.member = m then w.pairs else []
  | _ => []

/-- Whether a call assigns raw expressions. -/
def isRaw : Contribution → Bool
  | assign _ _ raw => raw
  | _ => false

variable {c : Contribution} {m : Member}

theorem writable_of_mem_assigned (hc : c.Admissible) (hraw : c.isRaw = false) {e : String × Value}
    (he : e ∈ c.assigned m) (hname : e.1 ≠ "") : e.2.Writable := by
  cases c with
  | assign a w raw =>
    rw [assigned] at he
    split at he
    · exact hc hraw e he hname
    · cases he
  | _ => cases he

/-- Values that are not raw are written as literals, where the field has a name. -/
theorem writes_of_not_raw (hraw : c.isRaw = false) (m : Member) :
    c.writes m = ((c.assigned m).filter (·.1 ≠ "")).map fun e => (e.1, .text e.2.literal) := by
  cases c with
  | assign a w raw =>
    cases hraw
    rw [writes, assigned]
    split <;> rfl
  | _ => rfl

end Contribution

/-- Pairs that assign a value to every field once, and to no field with a name that is not plain. -/
structure AssignsOnce (ws : List (String × Value)) : Prop where
  ne_nil : ws ≠ []
  nodup : (ws.map Prod.fst).Nodup
  plain : ∀ e ∈ ws, PlainName e.1

section

variable {cs : List Contribution} {m : Member}

theorem flatMap_writes_of_not_raw (hraw : ∀ c ∈ cs, c.isRaw = false) (m : Member) :
    cs.flatMap (Contribution.writes m) =
      ((cs.flatMap (·.assigned m)).filter (·.1 ≠ "")).map fun e => (e.1, .text e.2.literal) := by
  rw [List.filter_flatMap, List.map_flatMap]
  exact List.flatMap_congr fun c hc => Contribution.writes_of_not_raw (hraw c hc) m

/-- Fields that are assigned once stand in the order of the assignments, with literals. -/
theorem settled_writes (hraw : ∀ c ∈ cs, c.isRaw = false)
    (honce : AssignsOnce (cs.flatMap (·.assigned m))) :
    settled (cs.flatMap (Contribution.writes m)) =
      (cs.flatMap (·.assigned m)).map fun e => (e.1, .text e.2.literal) := by
  have hnamed : (cs.flatMap (·.assigned m)).filter (·.1 ≠ "") = cs.flatMap (·.assigned m) :=
    List.filter_eq_self.mpr fun e he => decide_eq_true (honce.plain e he).1
  have hwrites := flatMap_writes_of_not_raw hraw m
  rw [hnamed] at hwrites
  have hnodup : ((cs.flatMap (Contribution.writes m)).map Prod.fst).Nodup := by
    rw [hwrites, List.map_map]
    exact honce.nodup
  rw [settled_of_nodup hnodup, hwrites]

/-- Literals are texts, in which no integer has too many digits. -/
theorem writable_settled_writes (hraw : ∀ c ∈ cs, c.isRaw = false)
    (honce : AssignsOnce (cs.flatMap (·.assigned m))) :
    ∀ w ∈ settled (cs.flatMap (Contribution.writes m)), w.2.Writable := by
  intro w hw
  rw [settled_writes hraw honce] at hw
  obtain ⟨e, -, rfl⟩ := List.mem_map.mp hw
  exact nofun

theorem map_plainText_settled_writes (hraw : ∀ c ∈ cs, c.isRaw = false)
    (honce : AssignsOnce (cs.flatMap (·.assigned m))) :
    (settled (cs.flatMap (Contribution.writes m))).map (fun w => (w.1, w.2.plainText)) =
      (cs.flatMap (·.assigned m)).map fun e => (e.1, e.2.literal) := by
  rw [settled_writes hraw honce, List.map_map]
  rfl

theorem quote_of_mem_assigned (hcs : ∀ c ∈ cs, c.Admissible) (hraw : ∀ c ∈ cs, c.isRaw = false)
    (honce : AssignsOnce (cs.flatMap (·.assigned m))) {e : String × Value}
    (he : e ∈ cs.flatMap (·.assigned m)) : quote e.2 = .ok e.2.literal := by
  obtain ⟨c, hc, hmem⟩ := List.mem_flatMap.mp he
  exact Value.quote_eq_literal
    (Contribution.writable_of_mem_assigned (hcs c hc) (hraw c hc) hmem (honce.plain e he).1)

end

namespace AssignsOnce

variable {ws : List (String × Value)} {es : List (String × String)}

theorem ne_nil_of_eq (h : AssignsOnce ws) (hes : es = ws.map fun e => (e.1, e.2.literal)) : es ≠ [] := by
  rw [hes]
  exact mt List.map_eq_nil_iff.mp h.ne_nil

theorem plain_of_eq (h : AssignsOnce ws) (hes : es = ws.map fun e => (e.1, e.2.literal)) :
    ∀ e ∈ es, PlainName e.1 := by
  intro e he
  rw [hes] at he
  obtain ⟨d, hd, rfl⟩ := List.mem_map.mp he
  exact h.plain d hd

end AssignsOnce

theorem sealed_of_eq {ws : List (String × Value)} {es : List (String × String)}
    (hquote : ∀ e ∈ ws, quote e.2 = .ok e.2.literal)
    (hes : es = ws.map fun e => (e.1, e.2.literal)) : ∀ e ∈ es, isSealed false e.2.toList = true := by
  intro e he
  rw [hes] at he
  obtain ⟨d, hd, rfl⟩ := List.mem_map.mp he
  exact isSealed_of_quote (hquote d hd)

namespace Query

/-- **Containment.** Calls that add no predicates and no raw expressions come to a statement whose table
is plain. Whatever the values that they assign: the fields of an inserting statement are those that the
calls assign, each with the literal of its value in its place, and an updating statement assigns to these
fields the literals of their values. The table must not be taken for the mark in front of them. -/
theorem assigned_values_contained {q : Query} (hq : q.Fresh) {p : String} (hp : q.tablePrefix = .text p)
    {cs : List Contribution} (hcs : ∀ c ∈ cs, c.Admissible) (hraw : ∀ c ∈ cs, c.isRaw = false)
    (hpredicates : (Collected.of p cs).predicates = [])
    (htable : PlainTable (Collected.of p cs).outline.target) (w : Preparation) (clears : Bool) :
    let k := Collected.of p cs
    let inserted := cs.flatMap (·.assigned .insertions)
    let updated := cs.flatMap (·.assigned .updates)
    let answer := (w.on (q.after (cs.map Contribution.call)) clears).answer
    (w.kindAfter k ∈ [.insert, .insertSelect, .replace] → AssignsOnce inserted →
      ¬"VALUES".toList <:+ k.outline.target.toList →
      ∃ sql, answer = .ok sql ∧ fieldItems sql = inserted.map Prod.fst ∧
        (valueItems sql).map .ok = inserted.map fun e => quote e.2) ∧
    (w.kindAfter k = .update → AssignsOnce updated → k.outline.target ≠ "SET" →
      ∃ sql, answer = .ok sql ∧
        (assignmentItems sql).map .ok = updated.map fun e => (quote e.2).map (e.1 ++ " = " ++ ·)) := by
  intro k inserted updated answer
  have hanswer (hk : k.Legible (w.kindAfter k).member) :
      answer = .ok (k.outline.text (w.kindAfter k)) := by
    rw [show answer = _ from w.answer_on _ clears, hq.after_eq hp hcs]
    exact q.rendered_holding hk
  refine ⟨fun hkind honce hvalues => ?_, fun hkind honce hset => ?_⟩
  · have hes : k.outline.insertions = inserted.map fun e => (e.1, e.2.literal) :=
      map_plainText_settled_writes hraw honce
    have hlegible : k.Legible .insertions := writable_settled_writes hraw honce
    have hquote (e) (he : e ∈ inserted) := quote_of_mem_assigned hcs hraw honce he
    have hne := honce.ne_nil_of_eq hes
    have hplain := honce.plain_of_eq hes
    obtain ⟨verb, hverb, hmember, htext⟩ : ∃ verb, '(' ∉ verb.toList ∧
        (w.kindAfter k).member = .insertions ∧
        k.outline.text (w.kindAfter k) = k.outline.valuesText verb := by
      simp only [List.mem_cons, List.not_mem_nil, or_false] at hkind
      rcases hkind with hkind | hkind | hkind <;> rw [hkind]
      · exact ⟨"INSERT", by decide, rfl, rfl⟩
      · exact ⟨"INSERT", by decide, rfl, rfl⟩
      · exact ⟨"REPLACE", by decide, rfl, rfl⟩
    refine ⟨_, (hanswer (hmember ▸ hlegible)).trans (congrArg Except.ok htext), ?_, ?_⟩
    · rw [Outline.fieldItems_valuesText hverb htable hne hplain, hes, List.map_map]
      rfl
    · rw [Outline.valueItems_valuesText hverb htable hvalues hne hplain (sealed_of_eq hquote hes), hes,
        List.map_map, List.map_map]
      exact List.map_congr_left fun e he => (hquote e he).symm
  · have hes : k.outline.updates = updated.map fun e => (e.1, e.2.literal) :=
      map_plainText_settled_writes hraw honce
    have hlegible : k.Legible .updates := writable_settled_writes hraw honce
    have hquote (e) (he : e ∈ updated) := quote_of_mem_assigned hcs hraw honce he
    have hnone : k.outline.predicates = [] := by
      show k.predicates.flatMap Fragment.texts = []
      rw [hpredicates]
      rfl
    rw [hkind] at hanswer
    refine ⟨_, hanswer hlegible, ?_⟩
    show (assignmentItems k.outline.updateText).map Except.ok = _
    rw [Outline.assignmentItems_updateText hnone htable hset (honce.ne_nil_of_eq hes)
      (honce.plain_of_eq hes) (sealed_of_eq hquote hes), hes, List.map_map, List.map_map]
    refine List.map_congr_left fun e he => ?_
    rw [hquote e he]
    rfl

/-- Marks, separators and quotes inside of the values. -/
theorem assigned_values_contained_marks :
    let cs : List Contribution := [.table "t" "",
      .assign .insert (.one "a" (.text "x', (VALUES ('y")) false,
      .assign .replace (.all .list ["b", "c"] (.tuple [.null, .list [.text "it's", .text "a,b"]])) false,
      .assign .update (.all .tuple ["d", "e"] (.list [.text "1', SET ", .bool true])) false]
    let q := (blank (.text "p_") none).after (cs.map Contribution.call)
    (∃ sql, ((Preparation.of .replace).on q false).answer = .ok sql ∧ fieldItems sql = ["a", "b", "c"] ∧
      (valueItems sql).map Except.ok =
        [quote (.text "x', (VALUES ('y"), quote .null, quote (.list [.text "it's", .text "a,b"])]) ∧
    ∃ sql, (Preparation.own.on q false).answer = .ok sql ∧
      (assignmentItems sql).map Except.ok =
        [(quote (.text "1', SET ")).map ("d = " ++ ·), (quote (.bool true)).map ("e = " ++ ·)] := by
  intro cs q
  have hcs : ∀ c ∈ cs, c.Admissible := by decide
  have hcontained (w : Preparation) := assigned_values_contained
    (.made (show create (.text "p_") .nothing none = _ from rfl)) rfl hcs (by decide) (by decide)
    (by decide) w false
  exact ⟨(hcontained (.of .replace)).1 (by decide) ⟨List.cons_ne_nil _ _, by decide, by decide⟩ (by decide),
    (hcontained .own).2 (by decide) ⟨List.cons_ne_nil _ _, by decide, by decide⟩ (by decide)⟩

/-- A table whose name is taken for the mark in front of the values, or of the assignments. -/
theorem assigned_values_misplaced :
    let q (table : String) (a : Assignment) := (blank (.text "") none).after
      [.addTable (.text table) (.text ""), .assign a (.text "a") (.text "x") false]
    ((q "VALUES" .insert).prepare false).answer = .ok "INSERT INTO VALUES (a) VALUES ('x')" ∧
      valueItems "INSERT INTO VALUES (a) VALUES ('x')" = ["a) VALUES ('x'"] ∧
    ((q "SET" .update).prepare false).answer = .ok "UPDATE SET SET a = 'x' " ∧
      assignmentItems "UPDATE SET SET a = 'x' " = ["SET a = 'x'"] ∧
    quote (.text "x") = .ok "'x'" :=
  ⟨rfl, by decide +kernel, rfl, by decide +kernel, by decide +kernel⟩

end Query

end SqlDraft
