import SqlDraft.Proofs.Consuming
import SqlDraft.Proofs.Settled

/-!
# Views of one table

The rows that a connection sends back can be loaded all together, the first few of them, the first one, its first
value, or the values of the first column. Whatever reads the rows, these views agree with each other if it reads
them as they are.

* `Reader`, `Reader.buffered`: what reads the rows of a table, and the reader that a session works with.
* `Dispatch.viewBy`, `Query.loadBy`: a view through a reader; `step_call_eq_loadBy` says which one a session takes.
* `Table.Regular`: columns of different names, and rows as wide as they are many.
* `Reader.Reads`, `Reader.Fetches`: a reader that reads rows as they are, and as many as it is asked for.
* `Reader.buffered_reads`, `buffered_fetches`: the reader of a session does so.
* `Query.views_agree`: the views of a table that comes back.
-/

namespace SqlDraft

/-! ## Readers -/

/-- What reads the rows of a table. -/
structure Reader where
  /-- All rows. -/
  all : Table → Except Fault (List (List Value))
  /-- The first rows, as many as a value says that is above zero. -/
  few : Table → Value → Except Fault (List (List Value))
  /-- The first row, if there is one. -/
  first : Table → Except Fault (Option (List Value))
  /-- The first value of the first row, or nothing. -/
  cell : Table → Except Fault Value
  /-- The first value of every row. -/
  column : Table → Except Fault (List Value)

namespace Reader

/-- The reader that a session works with. It has all rows before it is asked for the first. -/
def buffered : Reader where
  all t := .ok t.rows
  few t count := do
    let n ← count.toInteger
    if Table.largestCount < n then .error .countTooLarge else .ok (t.rows.take n.toNat)
  first t := .ok t.rows.head?
  cell := Table.firstCell
  column := Table.firstColumn

/-- The first rows, as many as a value says: all if it says nothing, none if it is not above zero. -/
def rowsFor (r : Reader) (t : Table) (count : Value) : Except Fault (List (List Value)) :=
  match count with
  | .null => r.all t
  | _ => do if ← count.isPositive then r.few t count else .ok []

theorem rowsFor_int (r : Reader) (t : Table) (k : Int) :
    r.rowsFor t (.int k) = if 0 < k then r.few t (.int k) else .ok [] := by
  show (if decide (0 < k) = true then r.few t (.int k) else .ok []) = _
  simp only [decide_eq_true_eq]

/-- The first row with the names of its columns, if there is one. -/
def firstEntry (r : Reader) (t : Table) : Except Fault Value := do
  match ← r.first t with
  | none => .ok .null
  | some row => t.entry row

end Reader

namespace Dispatch

/-- What is made of the table that comes back, through a reader. -/
def viewBy (r : Reader) (d : Dispatch) (t : Table) : Except Fault Answer :=
  match d with
  | execute _ => .ok (.table t)
  | entries count => (r.rowsFor t count >>= t.entriesOf).map fun vs => .value (.list vs)
  | first => (r.firstEntry t).map .value
  | cell => (r.cell t).map .value
  | column => (r.column t).map fun vs => .value (.list vs)

theorem firstEntries_eq (t : Table) (count : Value) :
    t.firstEntries count = Reader.buffered.rowsFor t count >>= t.entriesOf := by
  have hpositive (v : Value) : (do
      if ← v.isPositive then
        let n ← v.toInteger
        if Table.largestCount < n then .error .countTooLarge else t.entriesOf (t.rows.take n.toNat)
      else .ok []) = (do if ← v.isPositive then Reader.buffered.few t v else .ok []) >>= t.entriesOf := by
    cases v.isPositive with
    | error f => rfl
    | ok b =>
      cases b with
      | false => rfl
      | true =>
        show (v.toInteger >>= _) = (v.toInteger >>= _) >>= _
        cases v.toInteger with
        | error f => rfl
        | ok n =>
          rw [ok_bind, ok_bind]
          split <;> rfl
  cases count with
  | null => rfl
  | _ => exact hpositive _

theorem viewBy_buffered (d : Dispatch) (t : Table) : d.viewBy .buffered t = d.view t := by
  cases d with
  | execute | cell => rfl
  | entries count =>
    show Except.map _ _ = ((t.firstEntries count).map Value.list).map Answer.value
    rw [firstEntries_eq]
    cases Reader.buffered.rowsFor t count >>= t.entriesOf <;> rfl
  | first =>
    show Except.map _ _ = t.firstEntry.map Answer.value
    unfold Table.firstEntry
    obtain ⟨columns, rows⟩ := t
    cases rows <;> rfl
  | column =>
    show t.firstColumn.map _ = (t.firstColumn.map Value.list).map Answer.value
    cases t.firstColumn <;> rfl

end Dispatch

/-- A query is executed, and what comes back is viewed through a reader. -/
def Query.loadBy (q : Query) (r : Reader) (d : Dispatch) (given : Option String) (reply : Reply) :
    Effect Answer :=
  let e := q.execute given d.clears reply
  ⟨e.query, e.answer >>= d.viewBy r, e.notices, e.sent⟩

theorem Dispatch.step_call_eq_loadBy (d : Dispatch) (q : Query) (given : Option String) (reply : Reply) :
    q.step (d.call given reply) = q.loadBy .buffered d given reply := by
  rw [d.step_call, Query.loadBy, show d.viewBy .buffered = d.view from funext d.viewBy_buffered]

/-! ## Tables as they are read -/

/-- Columns of different names, and rows that have a value for each of them. -/
structure Table.Regular (t : Table) : Prop where
  columns_ne_nil : t.columns ≠ []
  nodup : t.columns.Nodup
  width : ∀ row ∈ t.rows, row.length = t.columns.length

theorem Table.Regular.exists_cons {t : Table} (h : t.Regular) {row : List Value} (hrow : row ∈ t.rows) :
    ∃ v vs, row = v :: vs := by
  cases row with
  | cons v vs => exact ⟨v, vs, rfl⟩
  | nil =>
    have hlength := h.width [] hrow
    exact absurd (List.eq_nil_of_length_eq_zero hlength.symm) h.columns_ne_nil

namespace Reader

/-- A reader that reads the rows of a table as they are. -/
structure Reads (r : Reader) (t : Table) : Prop where
  all : r.all t = .ok t.rows
  first : r.first t = .ok t.rows.head?
  cell : r.cell t = .ok ((t.rows.head?.bind List.head?).getD .null)
  column : r.column t = .ok (t.rows.map fun row => row.headD .null)

/-- A reader that reads as many rows as it is asked for, as far as there are so many. -/
def Fetches (r : Reader) (t : Table) (k : Int) : Prop := r.few t (.int k) = .ok (t.rows.take k.toNat)

variable {t : Table}

theorem lastPosition_head {name : String} {names : List String} (h : (name :: names).Nodup) :
    Table.lastPosition name (name :: names) = 0 := by
  obtain ⟨hname, -⟩ := List.nodup_cons.mp h
  have hidx : (names.reverse ++ [name]).idxOf name = names.length := by
    rw [List.idxOf_append_of_notMem (by simpa using hname), List.idxOf_cons_self, List.length_reverse]
    rfl
  rw [Table.lastPosition, List.reverse_cons, hidx, List.length_cons]
  omega

/-- The reader of a session reads the rows of a regular table as they are. -/
theorem buffered_reads (h : t.Regular) : buffered.Reads t where
  all := rfl
  first := rfl
  cell := by
    show t.firstCell = _
    unfold Table.firstCell
    split
    · rename_i hrows
      rw [hrows]
      rfl
    · rename_i row rows hrows
      have hrow : row ∈ t.rows := hrows ▸ List.mem_cons_self
      obtain ⟨v, vs, rfl⟩ := h.exists_cons hrow
      rw [hrows]
      rfl
  column := by
    show t.firstColumn = _
    unfold Table.firstColumn
    split
    · rename_i hcolumns
      exact absurd hcolumns h.columns_ne_nil
    · rename_i name names hcolumns
      have hposition : Table.lastPosition name t.columns = 0 := by
        have hnodup := h.nodup
        rw [hcolumns] at hnodup ⊢
        exact lastPosition_head hnodup
      refine mapM_eq_ok fun row hrow => ?_
      obtain ⟨v, vs, rfl⟩ := h.exists_cons hrow
      rw [hposition]
      rfl

/-- It reads as many rows as it is asked for, up to the largest number. -/
theorem buffered_fetches {k : Int} (h : k ≤ Table.largestCount) : buffered.Fetches t k :=
  if_neg (Int.not_lt.mpr h)

end Reader

/-! ## Entries -/

namespace Table

variable {t : Table}

/-- A row with the names of its columns, which are all different. -/
def namedRow (t : Table) (row : List Value) : Value := .dict ((t.columns.map Value.text).zip row)

theorem Regular.entry_eq (h : t.Regular) {row : List Value} (hrow : row ∈ t.rows) :
    t.entry row = .ok (t.namedRow row) := by
  have hwrites : (t.columns.map Value.text).zip row = Entries.ofWrites id (t.columns.zip row) := by
    rw [List.zip_map_left]
    rfl
  have hnames : (t.columns.zip row).map Prod.fst = t.columns :=
    List.map_fst_zip (Nat.le_of_eq (h.width row hrow).symm)
  have hput := Entries.foldl_put_settled id [] (t.columns.zip row)
  have hnodup : ((t.columns.zip row).map Prod.fst).Nodup := hnames.symm ▸ h.nodup
  rw [List.nil_append, settled_of_nodup hnodup] at hput
  have hpairs : Entries.ofPairs (Entries.ofWrites id (t.columns.zip row)) =
      Entries.ofWrites id (t.columns.zip row) := by
    rw [Entries.ofPairs, Entries.ofWrites, List.foldl_map]
    exact hput
  rw [entry, if_neg (by rw [h.width row hrow]; exact Nat.lt_irrefl _), namedRow, hwrites, hpairs]

theorem Regular.entriesOf_eq (h : t.Regular) {rows : List (List Value)} (hrows : rows ⊆ t.rows) :
    t.entriesOf rows = .ok (rows.map t.namedRow) :=
  mapM_eq_ok fun _ hrow => h.entry_eq (hrows hrow)

/-- The value that a row with names has under the name of its first column. -/
theorem Regular.entry_namedRow (h : t.Regular) {row : List Value} (hrow : row ∈ t.rows) :
    (t.namedRow row).entry (t.columns.head h.columns_ne_nil) = .ok (row.headD .null) := by
  obtain ⟨columns, rows⟩ := t
  obtain ⟨v, vs, rfl⟩ := h.exists_cons hrow
  cases columns with
  | nil => exact absurd rfl h.columns_ne_nil
  | cons name names => simp [namedRow, Value.entry, Entries.get?]

end Table

/-! ## The views -/

namespace Query

variable {q : Query} {r : Reader} {t : Table} {given : Option String} {connection sql : String}

/-- A dispatch that clears the query, sent off and answered by a table. -/
theorem loadBy_of_text (hconnection : given.or q.connection = some connection)
    (hsql : (q.prepare false).answer = .ok sql) {d : Dispatch} (hd : d.clears = true) :
    (q.loadBy r d given (.table t)).answer = d.viewBy r t ∧
      (q.loadBy r d given (.table t)).sent = [(connection, sql)] ∧
      (q.loadBy r d given (.table t)).query = q.clear := by
  have hrendered := (Preparation.answer_on .own q false).symm.trans hsql
  have hquery := Preparation.query_on_of_text hrendered true
  rw [loadBy, hd, execute_of_text hconnection hrendered]
  exact ⟨rfl, send_sent .., (send_query ..).trans hquery⟩

/-- **Views of one table.** A query that can be written and has a connection is sent off, and a regular table
comes back, which a reader reads as it is. All entries are the rows with the names of their columns; a number
of entries is that many of them, none if it is negative; the first entry is the first of them; the first column
has their values under the name of the first column; the first value is the first of those. Whatever is asked
for, one statement is sent and the query is cleared. -/
theorem views_agree (hconnection : given.or q.connection = some connection)
    (hsql : (q.prepare false).answer = .ok sql) (ht : t.Regular) (hr : r.Reads t) :
    let load (d : Dispatch) : Effect Answer := q.loadBy r d given (.table t)
    ∃ rows values : List Value,
      rows = t.rows.map (fun row => .dict ((t.columns.map Value.text).zip row)) ∧
      (load (.entries .null)).answer = .ok (.value (.list rows)) ∧
      (∀ k : Int, (0 < k → r.Fetches t k) → (load (.entries (.int k))).answer =
        .ok (.value (.list (if k < 0 then [] else rows.take k.toNat)))) ∧
      (load .first).answer = .ok (.value (rows.headD .null)) ∧
      rows.mapM (·.entry (t.columns.head ht.columns_ne_nil)) = .ok values ∧
      (load .column).answer = .ok (.value (.list values)) ∧
      (load .cell).answer = .ok (.value (values.headD .null)) ∧
      ∀ d : Dispatch, d.clears = true →
        (load d).sent = [(connection, sql)] ∧ (load d).query = q.clear := by
  intro load
  have hload {d : Dispatch} (hd : d.clears = true) := loadBy_of_text (r := r) (t := t) hconnection hsql hd
  refine ⟨t.rows.map t.namedRow, t.rows.map fun row => row.headD .null, rfl, ?_, fun k hk => ?_, ?_, ?_, ?_,
    ?_, fun d hd => (hload hd).2⟩
  · rw [(hload rfl).1]
    show (r.all t >>= t.entriesOf).map _ = _
    rw [hr.all, ok_bind, ht.entriesOf_eq (List.Subset.refl _), map_ok]
  · rw [(hload rfl).1]
    show (r.rowsFor t (.int k) >>= t.entriesOf).map _ = _
    rw [Reader.rowsFor_int]
    split
    · rename_i hpos
      rw [hk hpos, ok_bind, ht.entriesOf_eq (List.take_subset ..), map_ok, if_neg (Int.not_lt.mpr (Int.le_of_lt hpos)),
        List.map_take]
    · rename_i hneg
      have hnone : k.toNat = 0 := Int.toNat_eq_zero.mpr (Int.not_lt.mp hneg)
      rw [hnone, List.take_zero, ite_self]
      rfl
  · rw [(hload rfl).1]
    show (r.first t >>= _).map _ = _
    rw [hr.first, ok_bind]
    cases hrows : t.rows with
    | nil => rfl
    | cons row rows =>
      show (t.entry row).map _ = _
      rw [ht.entry_eq (hrows ▸ List.mem_cons_self), map_ok]
      rfl
  · rw [List.mapM_map]
    exact mapM_eq_ok fun row hrow => ht.entry_namedRow hrow
  · rw [(hload rfl).1]
    show (r.column t).map _ = _
    rw [hr.column, map_ok]
  · rw [(hload rfl).1]
    show (r.cell t).map _ = _
    rw [hr.cell, map_ok]
    cases hrows : t.rows with
    | nil => rfl
    | cons row rows =>
      have hrow : row ∈ t.rows := hrows ▸ List.mem_cons_self
      obtain ⟨v, vs, rfl⟩ := ht.exists_cons hrow
      rfl

/-- Two rows that hold nothing but absent values, through the reader of a session. -/
theorem views_agree_absent :
    let q := (blank (.text "") (some "own")).after [.addTable (.text "t") (.text "")]
    let t : Table := ⟨["a", "b"], [[.null, .int 0], [.text "", .null]]⟩
    let load (d : Dispatch) : Effect Answer := q.step (d.call none (.table t))
    (load (.entries (.int 1))).answer =
        .ok (.value (.list [.dict [(.text "a", .null), (.text "b", .int 0)]])) ∧
      (load (.entries (.int (-1)))).answer = .ok (.value (.list [])) ∧
      (load .first).answer = .ok (.value (.dict [(.text "a", .null), (.text "b", .int 0)])) ∧
      (load .column).answer = .ok (.value (.list [.null, .text ""])) ∧
      (load .cell).answer = .ok (.value .null) ∧ (load .cell).query = q.clear := by
  intro q t load
  have ht : t.Regular := ⟨List.cons_ne_nil "a" _, by decide, by decide⟩
  have hconnection : (none : Option String).or q.connection = some "own" := rfl
  have hsql : (q.prepare false).answer = .ok "SELECT * FROM ((t AS t))     " := rfl
  have hload (d : Dispatch) : load d = q.loadBy .buffered d none (.table t) :=
    d.step_call_eq_loadBy q none (.table t)
  obtain ⟨rows, values, hrows, -, hcount, hfirst, hvalues, hcolumn, hcell, hsent⟩ :=
    views_agree hconnection hsql ht (Reader.buffered_reads ht)
  have hone := hcount 1 fun _ => Reader.buffered_fetches (by decide)
  have hbelow := hcount (-1) nofun
  subst hrows
  obtain rfl : [.null, .text ""] = values := Except.ok.inj hvalues
  simp only [hload]
  exact ⟨hone, hbelow, hfirst, hcolumn, hcell, (hsent .cell rfl).2⟩

end Query

end SqlDraft
