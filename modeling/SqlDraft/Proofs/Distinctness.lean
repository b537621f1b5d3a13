import SqlDraft.Proofs.Cancelling
import SqlDraft.Proofs.Contribution

/-!
# Telling selecting statements apart

A selecting statement is written from names, with words and spaces between them that say where a clause
begins. Names can read like these words. All the same, the statement says what it was written from, since
the number of spaces tells the clauses apart.

* `IsIdentifier`, `State.Clean`: names, and states that hold nothing but names and a limit.
* `State.Agrees`: states that a selecting statement need not tell apart.
* `cancels_names` to `cancels_joins`: every clause can be cancelled in front of what follows it.
* `Outline.selectText_cancel`: so can the whole statement, clause by clause.
* `State.select_loses_nothing`: equal statements come from states that agree.
-/

namespace SqlDraft

/-! ## Names -/

/-- The characters that a name starts with: ASCII letters and underscores. -/
def startsName (c : Char) : Bool := c.isAlpha || c == '_'

/-- A text that reads like a name, with points in it or without. -/
def IsIdentifier (s : String) : Prop := s.toList.head?.any startsName = true ∧ IsWord s

instance (s : String) : Decidable (IsIdentifier s) :=
  inferInstanceAs (Decidable (s.toList.head?.any startsName = true ∧ IsWord s))

theorem IsIdentifier.exists_cons {s : String} (h : IsIdentifier s) :
    ∃ c cs, s.toList = c :: cs ∧ startsName c = true := by
  obtain ⟨hstart, -⟩ := h
  cases hs : s.toList with
  | nil => rw [hs] at hstart; cases hstart
  | cons c cs =>
    rw [hs] at hstart
    exact ⟨c, cs, rfl, hstart⟩

theorem IsIdentifier.ne_empty {s : String} (h : IsIdentifier s) : s ≠ "" := by
  rintro rfl
  exact absurd h (by decide)

/-! ## Clean states -/

/-- A join of names. Its condition can be left out. -/
structure JoinOutline.Clean (j : JoinOutline) : Prop where
  table : IsIdentifier j.table
  name : IsIdentifier j.name
  condition : j.condition = "" ∨ IsIdentifier j.condition
  /-- The type is a common one, in small or capital letters. -/
  type : ∃ t : JoinType, upperText j.type = upperText t.word

/-- The texts of a selecting statement that are names. -/
structure Outline.Clean (o : Outline) : Prop where
  tables : ∀ t ∈ o.tables, IsIdentifier t.1 ∧ IsIdentifier t.2
  fields : ∀ f ∈ o.fields, IsIdentifier f
  predicates : ∀ p ∈ o.predicates, IsIdentifier p
  joins : ∀ j ∈ o.joins, j.Clean
  groups : ∀ g ∈ o.groups, IsIdentifier g
  orders : ∀ e ∈ o.orders, IsIdentifier e
  limit : 0 ≤ o.limit

/-- States that hold nothing but names, and a limit that can be written. -/
structure State.Clean (s : State) : Prop where
  tables : ∃ ts : List (String × String),
    s.current.tables = .dict (ts.map fun t => (.text t.1, .text t.2)) ∧
      ∀ t ∈ ts, IsIdentifier t.1 ∧ IsIdentifier t.2
  fields : ∃ fs : List Fragment, s.current.fields = .list (fs.map Fragment.value) ∧
    ∀ f ∈ fs, ∀ e ∈ f.texts, IsIdentifier e
  predicates : ∃ ps : List Fragment, s.current.predicates = .list (ps.map Fragment.value) ∧
    ∀ p ∈ ps, ∀ e ∈ p.texts, IsIdentifier e
  joins : ∃ js, JoinOutline.DescribeAll js s.current.joins ∧ ∀ j ∈ js, j.Clean
  groups : ∃ gs : List String, s.current.groups = .list (gs.map .text) ∧ ∀ g ∈ gs, IsIdentifier g
  orders : ∃ es : List String, s.current.orders = .list (es.map .text) ∧ ∀ e ∈ es, IsIdentifier e
  limit : ∃ n : Int, s.limit = .int n ∧ 0 ≤ n ∧ withinDigitLimit n = true

/-- Joins that differ at most in how their types are spelt. -/
structure SameJoin (j j' : Value) : Prop where
  table : j.entry "table" = j'.entry "table"
  name : j.entry "alias" = j'.entry "alias"
  condition : j.entry "condition" = j'.entry "condition"
  type : (j.entry "type" >>= Value.upper) = (j'.entry "type" >>= Value.upper)

/-- States with the same expressions, however these are grouped; the same tables under the same aliases,
in the same order; the same joins, however their types are spelt; and the same limit. -/
structure State.Agrees (s s' : State) : Prop where
  fields : flatten s.current.fields = flatten s'.current.fields
  tables : s.current.tables = s'.current.tables
  joins : ∃ js js', s.current.joins = .list js ∧ s'.current.joins = .list js' ∧
    List.Forall₂ SameJoin js js'
  predicates : flatten s.current.predicates = flatten s'.current.predicates
  groups : s.current.groups = s'.current.groups
  orders : s.current.orders = s'.current.orders
  limit : s.limit = s'.limit

/-! ## Lists of names -/

/-- A text that starts with a character. -/
def StartsWith (c : Char) (r : List Char) : Prop := ∃ t, r = c :: t

theorem startsWith_cons (c : Char) (t : List Char) : StartsWith c (c :: t) := ⟨t, rfl⟩

theorem cancels_identifier : Cancels String.toList IsIdentifier EndsWord :=
  fun _ _ _ _ hs ht hr hu h => cancels_word hs.2 ht.2 hr hu h

theorem endsWord_of_startsWith {c : Char} (hc : isNameChar c = false) {r : List Char}
    (h : StartsWith c r) : EndsWord r := by
  obtain ⟨t, rfl⟩ := h
  exact endsWord_cons hc t

/-- Names with commas between them, in front of a space. -/
theorem cancels_names {blank head : List Char}
    (hblank : ∀ a r t, IsIdentifier a → StartsWith ' ' r → blank ++ r ≠ head ++ (a.toList ++ t)) :
    Cancels (clauseChars blank head [','] String.toList) (fun ss => ∀ s ∈ ss, IsIdentifier s)
      (StartsWith ' ') := by
  refine cancels_identifier.clause (fun a r _ => ?_) (fun r hr => ?_) (fun a r t _ hr => ?_) hblank
  · exact endsWord_cons rfl _
  · exact endsWord_of_startsWith rfl hr
  · obtain ⟨u, rfl⟩ := hr
    exact fun h => absurd (List.cons.inj h).1 (by decide)

theorem cancels_fields :
    Cancels (clauseChars ['*'] [] [','] String.toList) (fun ss => ∀ s ∈ ss, IsIdentifier s)
      (StartsWith ' ') := by
  refine cancels_names fun a r t ha _ h => ?_
  obtain ⟨c, cs, hcs, hc⟩ := ha.exists_cons
  rw [hcs] at h
  obtain ⟨rfl, -⟩ := List.cons.inj h
  exact absurd hc (by decide)

/-- A clause of names behind a word, which is left out if there are none. -/
theorem cancels_listing {head : List Char} (hhead : head.head?.any (· != ' ') = true) :
    Cancels (clauseChars [] head [','] String.toList) (fun ss => ∀ s ∈ ss, IsIdentifier s)
      (StartsWith ' ') := by
  refine cancels_names fun a r t _ hr h => ?_
  obtain ⟨u, rfl⟩ := hr
  cases head with
  | nil => cases hhead
  | cons c cs => exact bne_iff_ne.mp hhead (List.cons.inj h).1.symm

/-! ## Predicates -/

/-- A text that starts with a space, which no further predicate follows. -/
def NoPredicateAhead (r : List Char) : Prop := ∃ t, r = ' ' :: t ∧ ¬StartsWith 'A' t

theorem cancels_predicates :
    Cancels (clauseChars [] "WHERE ".toList " AND ".toList String.toList)
      (fun ss => ∀ s ∈ ss, IsIdentifier s) NoPredicateAhead := by
  refine cancels_identifier.clause (fun a r _ => ?_) (fun r hr => ?_) (fun a r t _ hr => ?_)
    (fun a r t _ hr h => ?_)
  · exact endsWord_cons rfl _
  · obtain ⟨t, rfl, -⟩ := hr
    exact endsWord_cons rfl t
  · obtain ⟨u, rfl, hu⟩ := hr
    exact fun h => hu ⟨_, (List.cons.inj h).2⟩
  · obtain ⟨u, rfl, -⟩ := hr
    exact absurd (List.cons.inj h).1 (by decide)

/-- The clause behind the predicates starts with a `G`, or there is another space in its place. -/
theorem noPredicateAhead_groups (gs : List String) (v : List Char) :
    NoPredicateAhead (' ' :: (clauseChars [] "GROUP BY ".toList [','] String.toList gs ++ (' ' :: v))) := by
  refine ⟨_, rfl, fun hA => ?_⟩
  obtain ⟨t, ht⟩ := hA
  rw [clauseChars] at ht
  split at ht
  · exact absurd (List.cons.inj ht).1 (by decide)
  · have hG : "GROUP BY ".toList = 'G' :: "ROUP BY ".toList := by decide
    rw [hG] at ht
    exact absurd (List.cons.inj ht).1 (by decide)

/-! ## Tables -/

/-- A table with its alias. -/
def tableChars (t : String × String) : List Char :=
  '(' :: (t.2.toList ++ (" AS ".toList ++ (t.1.toList ++ [')'])))

theorem cancels_table :
    Cancels tableChars (fun t => IsIdentifier t.1 ∧ IsIdentifier t.2) fun _ => True := by
  intro t u r s ht hu _ _ h
  simp only [tableChars, List.cons_append, List.append_assoc] at h
  have has (v : List Char) : EndsWord (" AS ".toList ++ v) := endsWord_append (by decide) (by decide) v
  have hclose (v : List Char) : EndsWord ([')'] ++ v) := endsWord_append (by decide) (by decide) v
  obtain ⟨htable, h⟩ := cancels_identifier ht.2 hu.2 (has _) (has _) (List.cons.inj h).2
  obtain ⟨hname, h⟩ := cancels_identifier ht.1 hu.1 (hclose _) (hclose _) (List.append_cancel_left h)
  exact ⟨Prod.ext hname htable, List.append_cancel_left h⟩

theorem cancels_tables :
    Cancels (clauseChars [] [] [','] tableChars) (fun ts => ∀ t ∈ ts, IsIdentifier t.1 ∧ IsIdentifier t.2)
      (StartsWith ')') := by
  refine cancels_table.clause (fun _ _ _ => trivial) (fun _ _ => trivial) (fun a r t _ hr => ?_)
    (fun a r t _ hr h => ?_)
  · obtain ⟨u, rfl⟩ := hr
    exact fun h => absurd (List.cons.inj h).1 (by decide)
  · obtain ⟨u, rfl⟩ := hr
    exact absurd (List.cons.inj h).1 (by decide)

/-! ## Joins -/

/-- A condition of a join, left out if it is empty. -/
def conditionChars (c : String) : List Char :=
  if c = "" then [] else "ON ".toList ++ (c.toList ++ [' '])

/-- A join whose type is in capital letters already. -/
def joinChars (j : JoinOutline) : List Char :=
  j.type.toList ++ (" JOIN ".toList ++ (j.table.toList ++ (" AS ".toList ++
    (j.name.toList ++ ([' '] ++ conditionChars j.condition)))))

namespace JoinOutline

/-- A join with its type in capital letters. -/
def capital (j : JoinOutline) : JoinOutline := { j with type := upperText j.type }

/-- The clean joins with their types in capital letters. -/
def Capital (j : JoinOutline) : Prop := ∃ i : JoinOutline, i.Clean ∧ i.capital = j

end JoinOutline

theorem JoinType.isWord_upperText (t : JoinType) : IsWord (upperText t.word) := by
  cases t <;> decide +kernel

theorem JoinType.exists_cons_upperText (t : JoinType) :
    ∃ c cs, (upperText t.word).toList = c :: cs ∧ c ≠ ' ' ∧ c ≠ 'O' := by
  cases t with
  | left => exact ⟨'L', "EFT".toList, by decide +kernel, by decide, by decide⟩
  | right => exact ⟨'R', "IGHT".toList, by decide +kernel, by decide, by decide⟩
  | inner => exact ⟨'I', "NNER".toList, by decide +kernel, by decide, by decide⟩

/-- No join starts like a condition or like the end of the joins. -/
theorem exists_cons_joinChars {j : JoinOutline} (hj : j.Capital) :
    ∃ c cs, joinChars j = c :: cs ∧ c ≠ ' ' ∧ c ≠ 'O' := by
  obtain ⟨i, hi, rfl⟩ := hj
  obtain ⟨t, ht⟩ := hi.type
  obtain ⟨c, cs, hcs, hspace, hO⟩ := t.exists_cons_upperText
  rw [joinChars, JoinOutline.capital, ht, hcs]
  exact ⟨c, _, List.cons_append, hspace, hO⟩

theorem cancels_condition :
    Cancels conditionChars (fun c => c = "" ∨ IsIdentifier c) fun r => ¬StartsWith 'O' r := by
  have hcons {c : String} (hc : IsIdentifier c) (r : List Char) :
      conditionChars c ++ r = "ON ".toList ++ (c.toList ++ ([' '] ++ r)) := by
    rw [conditionChars, if_neg hc.ne_empty, List.append_assoc, List.append_assoc]
  intro c d r s hc hd hr hs h
  rcases hc with rfl | hc
  · rcases hd with rfl | hd
    · exact ⟨rfl, h⟩
    · rw [hcons hd] at h
      exact absurd ⟨_, h⟩ hr
  · rcases hd with rfl | hd
    · rw [hcons hc] at h
      exact absurd ⟨_, h.symm⟩ hs
    · rw [hcons hc, hcons hd] at h
      have hspace (v : List Char) : EndsWord ([' '] ++ v) := endsWord_append (by decide) (by decide) v
      obtain ⟨hcd, h⟩ := cancels_identifier hc hd (hspace _) (hspace _) (List.append_cancel_left h)
      exact ⟨hcd, List.append_cancel_left h⟩

theorem cancels_join : Cancels joinChars JoinOutline.Capital fun r => ¬StartsWith 'O' r := by
  rintro _ _ r s ⟨i, hi, rfl⟩ ⟨j, hj, rfl⟩ hr hs h
  simp only [joinChars, JoinOutline.capital, List.append_assoc] at h
  have hword {k : JoinOutline} (hk : k.Clean) : IsWord (upperText k.type) := by
    obtain ⟨t, ht⟩ := hk.type
    exact ht ▸ t.isWord_upperText
  have hjoin (v : List Char) : EndsWord (" JOIN ".toList ++ v) :=
    endsWord_append (by decide) (by decide) v
  have has (v : List Char) : EndsWord (" AS ".toList ++ v) := endsWord_append (by decide) (by decide) v
  have hspace (v : List Char) : EndsWord ([' '] ++ v) := endsWord_append (by decide) (by decide) v
  obtain ⟨htype, h⟩ := cancels_word (hword hi) (hword hj) (hjoin _) (hjoin _) h
  obtain ⟨htable, h⟩ := cancels_identifier hi.table hj.table (has _) (has _) (List.append_cancel_left h)
  obtain ⟨hname, h⟩ := cancels_identifier hi.name hj.name (hspace _) (hspace _) (List.append_cancel_left h)
  obtain ⟨hcondition, h⟩ := cancels_condition hi.condition hj.condition hr hs (List.append_cancel_left h)
  refine ⟨?_, h⟩
  rw [JoinOutline.capital, JoinOutline.capital, htype, htable, hname, hcondition]

theorem cancels_joins :
    Cancels (List.flatMap joinChars) (fun js => ∀ j ∈ js, j.Capital) (StartsWith ' ') := by
  refine cancels_join.flatMap (fun j r hj hr => ?_) (fun r hr hO => ?_) (fun j r t hj hr h => ?_)
  · obtain ⟨c, cs, hcs, -, hO⟩ := exists_cons_joinChars hj
    obtain ⟨t, ht⟩ := hr
    rw [hcs] at ht
    exact hO (List.cons.inj ht).1
  · obtain ⟨t, rfl⟩ := hr
    obtain ⟨u, hu⟩ := hO
    exact absurd (List.cons.inj hu).1 (by decide)
  · obtain ⟨c, cs, hcs, hspace, -⟩ := exists_cons_joinChars hj
    obtain ⟨u, rfl⟩ := hr
    rw [hcs] at h
    exact hspace (List.cons.inj h).1.symm

/-! ## The limit -/

theorem Outline.limitText_injective {o o' : Outline} (ho : 0 ≤ o.limit) (ho' : 0 ≤ o'.limit)
    (h : o.limitText = o'.limitText) : o.limit = o'.limit := by
  have hword {n : Int} : "LIMIT " ++ integerText n ≠ "" := by
    intro hn
    have hchars := congrArg String.toList hn
    rw [String.toList_append] at hchars
    exact absurd (List.append_eq_nil_iff.mp hchars).1 (by decide)
  unfold limitText at h
  by_cases hpos : 0 < o.limit
  · by_cases hpos' : 0 < o'.limit
    · rw [if_pos hpos, if_pos hpos'] at h
      have hchars := congrArg String.toList h
      rw [String.toList_append, String.toList_append] at hchars
      have hdigits := List.append_cancel_left hchars
      obtain ⟨m, hm⟩ := Int.eq_ofNat_of_zero_le ho
      obtain ⟨n, hn⟩ := Int.eq_ofNat_of_zero_le ho'
      rw [hm, hn, integerText, integerText, String.toList_ofList, String.toList_ofList] at hdigits
      rw [hm, hn, decimalDigits_injective hdigits]
    · rw [if_pos hpos, if_neg hpos'] at h
      exact absurd h hword
  · by_cases hpos' : 0 < o'.limit
    · rw [if_neg hpos, if_pos hpos'] at h
      exact absurd h.symm hword
    · omega

/-! ## Statements -/

namespace Outline

variable {o o' : Outline}

/-- The characters of a selecting statement, clause by clause. -/
def selectChars (o : Outline) : List Char :=
  "SELECT ".toList ++ (clauseChars ['*'] [] [','] String.toList o.fields ++ (' ' :: ("FROM (".toList ++
    (clauseChars [] [] [','] tableChars o.tables ++ (')' :: (' ' ::
      ((o.joins.map JoinOutline.capital).flatMap joinChars ++ (' ' ::
        (clauseChars [] "WHERE ".toList " AND ".toList String.toList o.predicates ++ (' ' ::
          (clauseChars [] "GROUP BY ".toList [','] String.toList o.groups ++ (' ' ::
            (clauseChars [] "ORDER BY ".toList [','] String.toList o.orders ++ (' ' ::
              o.limitText.toList))))))))))))))

theorem toList_clauseText (blank head sep : String) (ss : List String) :
    (if ss = [] then blank else head ++ sep.intercalate ss).toList =
      clauseChars blank.toList head.toList sep.toList String.toList ss := by
  unfold clauseChars
  split
  · rfl
  · rw [String.toList_append, String.toList_intercalate]

theorem toList_fieldsText :
    o.fieldsText.toList = clauseChars ['*'] [] [','] String.toList o.fields := by
  have h := toList_clauseText "*" "" "," o.fields
  rwa [String.empty_append] at h

theorem toList_tablesText :
    o.tablesText.toList = clauseChars [] [] [','] tableChars o.tables := by
  have hitem (t : String × String) :
      ("(" ++ t.2 ++ " AS " ++ t.1 ++ ")").toList = tableChars t := by
    simp [tableChars]
  unfold tablesText clauseChars
  rw [String.toList_intercalate, List.map_map]
  split
  · rename_i hnil
    rw [hnil]
    rfl
  · exact congrArg (List.intercalate [',']) (List.map_congr_left fun t _ => hitem t)

theorem toList_text {j : JoinOutline} (hj : j.Clean) : j.text.toList = joinChars j.capital := by
  have htype : j.type ≠ "" := by
    rintro he
    obtain ⟨t, ht⟩ := hj.type
    rw [he] at ht
    exact absurd ht (by cases t <;> decide +kernel)
  simp only [JoinOutline.text, joinChars, JoinOutline.capital, orOther, if_neg htype,
    if_neg hj.name.ne_empty, conditionChars]
  by_cases hc : j.condition = "" <;> simp [hc]

theorem toList_joinsText (h : o.Clean) :
    o.joinsText.toList = (o.joins.map JoinOutline.capital).flatMap joinChars := by
  have hitems : o.joins.map (String.toList ∘ JoinOutline.text) =
      (o.joins.map JoinOutline.capital).map joinChars := by
    rw [List.map_map]
    exact List.map_congr_left fun j hj => toList_text (h.joins j hj)
  rw [joinsText, String.toList_intercalate, List.map_map, hitems]
  cases o.joins.map JoinOutline.capital with
  | nil => rfl
  | cons j js => exact intercalate_map_cons [] joinChars j js

theorem toList_selectText (h : o.Clean) : o.selectText.toList = o.selectChars := by
  have hpredicates : o.predicatesText.toList = _ := toList_clauseText "" "WHERE " " AND " o.predicates
  have hgroups : o.groupsText.toList = _ := toList_clauseText "" "GROUP BY " "," o.groups
  have horders : o.ordersText.toList = _ := toList_clauseText "" "ORDER BY " "," o.orders
  unfold selectText selectChars
  simp only [String.toList_append, toList_fieldsText, toList_tablesText, toList_joinsText h,
    hpredicates, hgroups, horders, List.append_assoc]
  rfl

/-- Equal statements come from equal clauses, apart from how the types of joins are spelt. -/
theorem selectText_cancel (ho : o.Clean) (ho' : o'.Clean) (h : o.selectText = o'.selectText) :
    o.fields = o'.fields ∧ o.tables = o'.tables ∧
      o.joins.map JoinOutline.capital = o'.joins.map JoinOutline.capital ∧
      o.predicates = o'.predicates ∧ o.groups = o'.groups ∧ o.orders = o'.orders ∧
      o.limit = o'.limit := by
  have hjoins {o : Outline} (ho : o.Clean) : ∀ j ∈ o.joins.map JoinOutline.capital, j.Capital :=
    List.forall_mem_map.mpr fun j hj => ⟨j, ho.joins j hj, rfl⟩
  have h := congrArg String.toList h
  rw [toList_selectText ho, toList_selectText ho'] at h
  unfold selectChars at h
  obtain ⟨hfields, h⟩ := cancels_fields ho.fields ho'.fields (startsWith_cons ..) (startsWith_cons ..)
    (List.append_cancel_left h)
  obtain ⟨htables, h⟩ := cancels_tables ho.tables ho'.tables (startsWith_cons ..) (startsWith_cons ..)
    (List.append_cancel_left (List.cons.inj h).2)
  obtain ⟨hjoined, h⟩ := cancels_joins (hjoins ho) (hjoins ho') (startsWith_cons ..) (startsWith_cons ..)
    (List.cons.inj (List.cons.inj h).2).2
  obtain ⟨hpredicates, h⟩ := cancels_predicates ho.predicates ho'.predicates (noPredicateAhead_groups ..)
    (noPredicateAhead_groups ..) (List.cons.inj h).2
  obtain ⟨hgrouped, h⟩ := cancels_listing (by decide) ho.groups ho'.groups (startsWith_cons ..)
    (startsWith_cons ..) (List.cons.inj h).2
  obtain ⟨hordered, h⟩ := cancels_listing (by decide) ho.orders ho'.orders (startsWith_cons ..)
    (startsWith_cons ..) (List.cons.inj h).2
  have hlimit := limitText_injective ho.limit ho'.limit (String.toList_injective (List.cons.inj h).2)
  exact ⟨hfields, htables, hjoined, hpredicates, hgrouped, hordered, hlimit⟩

end Outline

/-! ## States -/

theorem sameJoin_of_describes {o o' : JoinOutline} {j j' : Value} (h : o.Describes j)
    (h' : o'.Describes j') (he : o.capital = o'.capital) : SameJoin j j' := by
  obtain ⟨htable, hname, hcondition, htype⟩ := JoinOutline.mk.inj he
  constructor
  · rw [h.table, h'.table, htable]
  · rw [h.name, h'.name, hname]
  · rw [h.condition, h'.condition, hcondition]
  · rw [h.type, h'.type]
    exact congrArg (fun t => Except.ok (Value.text t)) htype

theorem sameJoins_of_describe {os os' : List JoinOutline} {js js' : List Value}
    (h : List.Forall₂ JoinOutline.Describes os js) (h' : List.Forall₂ JoinOutline.Describes os' js')
    (he : os.map JoinOutline.capital = os'.map JoinOutline.capital) : List.Forall₂ SameJoin js js' := by
  induction h generalizing os' js' with
  | nil =>
    cases h' with
    | nil => exact .nil
    | cons => cases he
  | cons hj _ ih =>
    cases h' with
    | nil => cases he
    | cons hj' hjs' =>
      obtain ⟨hhead, htail⟩ := List.cons.inj he
      exact .cons (sameJoin_of_describes hj hj' hhead) (ih hjs' htail)

namespace State

variable {s s' : State}

/-- A clean state has a clean outline, which takes its joins as they are read. -/
theorem Clean.exists_outline (h : s.Clean) :
    ∃ o : Outline, o.Clean ∧ JoinOutline.DescribeAll o.joins s.current.joins ∧
      State.Outlined
        { s with current := { s.current with joins := .list (o.joins.map JoinOutline.value) } }
        .select o := by
  obtain ⟨ts, hts, hcleants⟩ := h.tables
  obtain ⟨fs, hfs, hcleanfs⟩ := h.fields
  obtain ⟨ps, hps, hcleanps⟩ := h.predicates
  obtain ⟨js, hjs, hcleanjs⟩ := h.joins
  obtain ⟨gs, hgs, hcleangs⟩ := h.groups
  obtain ⟨es, hes, hcleanes⟩ := h.orders
  obtain ⟨n, hn, h0, hwithin⟩ := h.limit
  have hflat {fs : List Fragment} (hfs : ∀ f ∈ fs, ∀ e ∈ f.texts, IsIdentifier e) :
      ∀ e ∈ fs.flatMap Fragment.texts, IsIdentifier e := by
    intro e he
    obtain ⟨f, hf, hef⟩ := List.mem_flatMap.mp he
    exact hfs f hf e hef
  refine ⟨⟨ts, fs.flatMap Fragment.texts, ps.flatMap Fragment.texts, js, gs, es, n, [], []⟩,
    ⟨hcleants, hflat hcleanfs, hflat hcleanps, hcleanjs, hcleangs, hcleanes, h0⟩, hjs, ?_⟩
  exact
    { tables := hts
      fields := hfs ▸ congrArg Except.ok (Fragment.flattenList_values fs)
      predicates := hps ▸ congrArg Except.ok (Fragment.flattenList_values ps)
      joins := rfl
      groups := hgs
      orders := hes
      limit := hn
      limitWithin := fun _ => hwithin
      insertions := nofun
      updates := nofun }

theorem selectStatement_of_outlined {o : Outline}
    (hjoins : JoinOutline.DescribeAll o.joins s.current.joins)
    (ho : State.Outlined
      { s with current := { s.current with joins := .list (o.joins.map JoinOutline.value) } }
      .select o) : selectStatement s = .ok o.selectText := by
  have hclause : joinsClause (.list (o.joins.map JoinOutline.value)) = joinsClause s.current.joins := by
    rw [joinsClause_of_describeAll hjoins, joinsClause_eq]
  exact (StatementKind.render_joins .select hclause).symm.trans ho.render_eq

/-- **A selecting statement loses nothing.** The statement of a clean state comes about, and two clean
states with the same statement agree: no name can be taken for a word of the statement, not even one that
reads like it. -/
theorem select_loses_nothing (hs : s.Clean) (hs' : s'.Clean) :
    (∃ sql, selectStatement s = .ok sql) ∧
      (selectStatement s = selectStatement s' → s.Agrees s') := by
  obtain ⟨o, hclean, hjoins, ho⟩ := hs.exists_outline
  obtain ⟨o', hclean', hjoins', ho'⟩ := hs'.exists_outline
  have htext := selectStatement_of_outlined hjoins ho
  refine ⟨⟨_, htext⟩, fun h => ?_⟩
  rw [htext, selectStatement_of_outlined hjoins' ho'] at h
  obtain ⟨hfields, htables, hjoined, hpredicates, hgroups, horders, hlimit⟩ :=
    Outline.selectText_cancel hclean hclean' (Except.ok.inj h)
  obtain ⟨js, hjs, hall⟩ := hjoins
  obtain ⟨js', hjs', hall'⟩ := hjoins'
  exact
    { fields := by rw [ho.fields, ho'.fields, hfields]
      tables := by rw [ho.tables, ho'.tables, htables]
      joins := ⟨js, js', hjs, hjs', sameJoins_of_describe hall hall' hjoined⟩
      predicates := by rw [ho.predicates, ho'.predicates, hpredicates]
      groups := by rw [ho.groups, ho'.groups, hgroups]
      orders := by rw [ho.orders, ho'.orders, horders]
      limit := by rw [ho.limit, ho'.limit, hlimit] }

/-- Names that read like the words of a statement. One state groups its fields, the other spells the type
of its join in capital letters. -/
theorem select_loses_nothing_words :
    let join (type : String) : JoinOutline := ⟨"JOIN", "ON", "", type⟩
    let state (fields : List Fragment) (type : String) : State :=
      { empty with current :=
        { tables := .dict [(.text "AS", .text "FROM")]
          fields := .list (fields.map Fragment.value)
          predicates := .list [.text "AND", .text "WHERE"]
          joins := .list [(join type).value]
          groups := .list [.text "GROUP"]
          orders := .list [] } }
    (state [.group .tuple ["SELECT", "BY"]] "left").Agrees (state [.one "SELECT", .one "BY"] "LEFT") := by
  intro join state
  have htable : IsIdentifier "JOIN" := by decide
  have hname : IsIdentifier "ON" := by decide
  have hclean (fields : List Fragment) (type : String)
      (hfields : ∀ f ∈ fields, ∀ e ∈ f.texts, IsIdentifier e)
      (htype : upperText type = upperText JoinType.left.word) : (state fields type).Clean :=
    { tables := ⟨[("AS", "FROM")], rfl, by decide⟩
      fields := ⟨fields, rfl, hfields⟩
      predicates := ⟨[.one "AND", .one "WHERE"], rfl, by decide⟩
      joins := ⟨[join type], JoinOutline.describeAll_values [join type],
        fun j hj => List.mem_singleton.mp hj ▸
          ⟨htable, hname, .inl rfl, .left, htype⟩⟩
      groups := ⟨["GROUP"], rfl, by decide⟩
      orders := ⟨[], rfl, nofun⟩
      limit := ⟨0, rfl, Int.le_refl 0, rfl⟩ }
  have hgrouped := hclean [.group .tuple ["SELECT", "BY"]] "left" (by decide) rfl
  have hsingle := hclean [.one "SELECT", .one "BY"] "LEFT" (by decide) (by decide +kernel)
  exact (select_loses_nothing hgrouped hsingle).2 (by decide +kernel)

end State

end SqlDraft
