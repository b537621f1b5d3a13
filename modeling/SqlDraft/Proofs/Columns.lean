import SqlDraft.Proofs.Leading

/-!
# Numbers in columns

Numbers stand side by side in a text, each with leading zeros up to the width of its column and with a mark
behind it. Where no mark is a digit the text is read back, whatever the widths. Where the columns of two texts
are equally wide the texts are in the order of their numbers, first number first.

* `IsDigits`: runs of digits; `digitsValue_zeroPadded`: leading zeros do not change a number.
* `lt_of_digitsValue_lt`: digits in equal number are in the order of what they denote.
* `Column`, `ruled`: columns, and the text of numbers in them.
* `readColumns`, `readColumns_ruled`: the numbers are read back.
* `columnWidths`, `map_shapeChar_ruled`: the widths of columns, and what of a text depends on them alone.
* `ruled_lt_ruled`: the order of two texts.
-/

namespace SqlDraft

/-! ## Digits -/

/-- A run of digits. -/
def IsDigits (cs : List Char) : Prop := ∀ c ∈ cs, c.isDigit = true

theorem IsDigits.append {cs ds : List Char} (h : IsDigits cs) (h' : IsDigits ds) : IsDigits (cs ++ ds) :=
  fun c hc => (List.mem_append.mp hc).elim (h c) (h' c)

theorem isDigits_zeros (n : Nat) : IsDigits (List.replicate n '0') := by
  intro c hc
  rw [List.eq_of_mem_replicate hc]
  rfl

theorem isDigits_decimalDigits (n : Nat) : IsDigits (decimalDigits n) := fun _ hc => isDigit_of_mem_decimalDigits hc

theorem isDigits_zeroPadded (width n : Nat) : IsDigits (zeroPadded width (decimalDigits n)) :=
  (isDigits_zeros _).append (isDigits_decimalDigits n)

theorem digitsValue_zeroPadded (width n : Nat) : digitsValue (zeroPadded width (decimalDigits n)) = n := by
  have hzeros (k : Nat) : (List.replicate k '0').foldl (fun n c => 10 * n + (digitValue? c).getD 0) 0 = 0 := by
    induction k with
    | zero => rfl
    | succ k ih => exact ih
  rw [zeroPadded, digitsValue, List.foldl_append, hzeros, ← digitsValue, digitsValue_eq_placeValue,
    placeValue_decimalDigits]

theorem zeroPadded_ne_nil (width n : Nat) : zeroPadded width (decimalDigits n) ≠ [] := fun h =>
  Nat.toDigits_ne_nil (List.append_eq_nil_iff.mp h).2

theorem length_zeroPadded (width : Nat) (cs : List Char) : (zeroPadded width cs).length = max width cs.length := by
  rw [zeroPadded, List.length_append, List.length_replicate]
  omega

/-- The first digit counts for the highest power of ten. -/
theorem digitsValue_cons (c : Char) (ds : List Char) :
    digitsValue (c :: ds) = 10 ^ ds.length * (digitValue? c).getD 0 + digitsValue ds := by
  simp only [digitsValue_eq_placeValue, placeValue, List.reverse_cons, List.map_append, List.map_cons, List.map_nil,
    Nat.ofDigits_append, Nat.ofDigits_singleton, List.length_map, List.length_reverse]
  exact Nat.add_comm _ _

/-- Digits in equal number are in the order of what they denote. -/
theorem lt_of_digitsValue_lt {ds es : List Char} (hlength : ds.length = es.length) (hds : IsDigits ds)
    (hes : IsDigits es) (h : digitsValue ds < digitsValue es) : ds < es := by
  induction ds generalizing es with
  | nil =>
    obtain rfl : es = [] := List.length_eq_zero_iff.mp hlength.symm
    exact absurd h (Nat.lt_irrefl _)
  | cons c ds ih =>
    cases es with
    | nil => cases hlength
    | cons e es =>
      obtain ⟨hc, hds⟩ := List.forall_mem_cons.mp hds
      obtain ⟨he, hes⟩ := List.forall_mem_cons.mp hes
      have hlength : ds.length = es.length := Nat.succ.inj hlength
      have hc' : (digitValue? c).getD 0 = c.toNat - 48 := by
        rw [digitValue?_of_isDigit hc]
        rfl
      have he' : (digitValue? e).getD 0 = e.toNat - 48 := by
        rw [digitValue?_of_isDigit he]
        rfl
      rw [digitsValue_cons, digitsValue_cons, hc', he', hlength] at h
      rw [List.cons_lt_cons_iff]
      rcases Nat.lt_trichotomy c.toNat e.toNat with hlt | heq | hgt
      · exact .inl hlt
      · rw [heq] at h
        exact .inr ⟨Char.toNat_inj.mp heq, ih hlength hds hes (Nat.lt_of_add_lt_add_left h)⟩
      · -- The digits behind a lower first digit cannot make up for it.
        have hfloor : 48 ≤ e.toNat := by
          have := he
          simp [Char.isDigit, UInt32.le_iff_toNat_le] at this
          exact this.1
        have hbehind := digitsValue_lt es
        have hfirst : 10 ^ es.length * (e.toNat - 48 + 1) ≤ 10 ^ es.length * (c.toNat - 48) :=
          Nat.mul_le_mul_left _ (by omega)
        rw [Nat.mul_add, Nat.mul_one] at hfirst
        omega

/-! ## Columns -/

/-- A column of a text: the least number of digits of its numbers, and the mark behind them, if there is one. -/
structure Column where
  width : Nat
  mark : Option Char

variable {columns : List Column} {ns ms : List Nat}

/-- The text of numbers in columns. -/
def ruled : List Column → List Nat → List Char
  | column :: columns, n :: ns =>
    zeroPadded column.width (decimalDigits n) ++ (column.mark.toList ++ ruled columns ns)
  | _, _ => []

/-! ## Reading -/

/-- The numbers of a text, each a run of digits with the mark of its column behind it. Behind a column without
a mark the text ends. -/
def readColumns : List Column → List Char → Option (List Nat)
  | [], cs => if cs = [] then some [] else none
  | column :: columns, cs =>
    let digits := cs.takeWhile Char.isDigit
    let behind := cs.dropWhile Char.isDigit
    if digits ≠ [] ∧ behind.head? = column.mark then
      (readColumns columns behind.tail).map (digitsValue digits :: ·)
    else none

/-- Every column has a mark that is no digit, but the last has none. -/
def Separated : List Column → Prop
  | [] => True
  | [column] => column.mark = none
  | column :: columns => (∃ c, column.mark = some c ∧ c.isDigit = false) ∧ Separated columns

/-- One number is read, up to its mark or to the end of the text. -/
theorem readColumns_cons (column : Column) (columns : List Column) (n : Nat) {rest : List Char}
    (hmark : ∀ c ∈ column.mark, c.isDigit = false) (hend : column.mark = none → rest = []) :
    readColumns (column :: columns) (zeroPadded column.width (decimalDigits n) ++ (column.mark.toList ++ rest)) =
      (readColumns columns rest).map (n :: ·) := by
  have hdigits := isDigits_zeroPadded column.width n
  have hhead : (column.mark.toList ++ rest).head? = column.mark := by
    cases hc : column.mark with
    | none => rw [hend hc]; rfl
    | some c => rfl
  have htail : (column.mark.toList ++ rest).tail = rest := by
    cases hc : column.mark with
    | none => rw [hend hc]; rfl
    | some c => rfl
  rw [← hhead] at hmark
  rw [readColumns, takeWhile_append_of_head hdigits hmark, dropWhile_append_of_head hdigits hmark,
    if_pos ⟨zeroPadded_ne_nil _ _, hhead⟩, htail, digitsValue_zeroPadded]

/-- The numbers of a text are read back, with leading zeros or without. -/
theorem readColumns_ruled (hcolumns : Separated columns) (hlength : ns.length = columns.length) :
    readColumns columns (ruled columns ns) = some ns := by
  induction columns generalizing ns with
  | nil =>
    obtain rfl : ns = [] := List.length_eq_zero_iff.mp hlength
    rfl
  | cons column columns ih =>
    obtain ⟨n, ns, rfl⟩ := List.exists_cons_of_length_eq_add_one hlength
    have hlength : ns.length = columns.length := Nat.succ.inj hlength
    rw [ruled]
    cases columns with
    | nil =>
      obtain rfl : ns = [] := List.length_eq_zero_iff.mp hlength
      have hnone : column.mark = none := hcolumns
      have hdigit : ∀ d ∈ column.mark, d.isDigit = false := by
        rw [hnone]
        nofun
      have hend : column.mark = none → ruled [] [] = [] := fun _ => rfl
      rw [readColumns_cons column [] n hdigit hend]
      rfl
    | cons next columns =>
      obtain ⟨⟨c, hmark, hc⟩, hrest⟩ := hcolumns
      have hdigit : ∀ d ∈ column.mark, d.isDigit = false := by
        rw [hmark]
        rintro d ⟨⟩
        exact hc
      have hend : column.mark = none → ruled (next :: columns) ns = [] := by
        rw [hmark]
        nofun
      rw [readColumns_cons column _ n hdigit hend, ih hrest hlength]
      rfl

/-! ## Widths -/

/-- How wide the columns of a text are. -/
def columnWidths (columns : List Column) (ns : List Nat) : List Nat :=
  List.zipWith (fun column n => (zeroPadded column.width (decimalDigits n)).length) columns ns

/-- `D` in place of a digit. -/
def shapeChar (c : Char) : Char := if c.isDigit then 'D' else c

/-- Columns of given widths, filled with `D`. -/
def blankForm : List Column → List Nat → List Char
  | column :: columns, w :: ws => List.replicate w 'D' ++ (column.mark.toList ++ blankForm columns ws)
  | _, _ => []

theorem map_shapeChar_digits {ds : List Char} (h : IsDigits ds) :
    ds.map shapeChar = List.replicate ds.length 'D' := by
  rw [List.eq_replicate_iff]
  refine ⟨List.length_map _, fun d hd => ?_⟩
  obtain ⟨c, hc, rfl⟩ := List.mem_map.mp hd
  exact if_pos (h c hc)

/-- Only the widths of the columns show in the shape of a text. -/
theorem map_shapeChar_ruled (hmarks : ∀ column ∈ columns, ∀ c ∈ column.mark, c.isDigit = false) :
    (ruled columns ns).map shapeChar = blankForm columns (columnWidths columns ns) := by
  induction columns generalizing ns with
  | nil => rfl
  | cons column columns ih =>
    obtain ⟨hmark, hrest⟩ := List.forall_mem_cons.mp hmarks
    cases ns with
    | nil => rfl
    | cons n ns =>
      have hdigits := map_shapeChar_digits (isDigits_zeroPadded column.width n)
      have hmark : column.mark.toList.map shapeChar = column.mark.toList := by
        cases hc : column.mark with
        | none => rfl
        | some c =>
          rw [hc] at hmark
          simp [shapeChar, hmark c rfl]
      rw [ruled, List.map_append, List.map_append, hdigits, hmark, ih hrest]
      rfl

/-! ## Order -/

/-- Texts are in the order of their equally long first parts, and of the rest if these are equal. -/
theorem append_lt_append {xs ys us vs : List Char} (hlength : xs.length = ys.length)
    (h : xs < ys ∨ xs = ys ∧ us < vs) : xs ++ us < ys ++ vs := by
  induction xs generalizing ys with
  | nil =>
    obtain rfl : ys = [] := List.length_eq_zero_iff.mp hlength.symm
    exact (h.resolve_left (List.lt_irrefl _)).2
  | cons x xs ih =>
    obtain ⟨y, ys, rfl⟩ := List.exists_cons_of_length_eq_add_one hlength.symm
    rw [List.cons_append, List.cons_append, List.cons_lt_cons_iff]
    simp only [List.cons_lt_cons_iff, List.cons.injEq] at h
    rcases h with (hlt | ⟨rfl, hlt⟩) | ⟨⟨rfl, rfl⟩, hlt⟩
    · exact .inl hlt
    · exact .inr ⟨rfl, ih (Nat.succ.inj hlength) (.inl hlt)⟩
    · exact .inr ⟨rfl, ih rfl (.inr ⟨rfl, hlt⟩)⟩

/-- Where the columns are equally wide, the first number that is less decides. -/
theorem ruled_lt_ruled (hns : ns.length = columns.length) (hms : ms.length = columns.length)
    (hwidths : columnWidths columns ns = columnWidths columns ms) (h : ns < ms) :
    ruled columns ns < ruled columns ms := by
  induction columns generalizing ns ms with
  | nil =>
    rw [List.length_eq_zero_iff.mp hns, List.length_eq_zero_iff.mp hms] at h
    cases h
  | cons column columns ih =>
    obtain ⟨n, ns, rfl⟩ := List.exists_cons_of_length_eq_add_one hns
    obtain ⟨m, ms, rfl⟩ := List.exists_cons_of_length_eq_add_one hms
    obtain ⟨hwidth, hrest⟩ := List.cons.inj hwidths
    rw [ruled, ruled]
    refine append_lt_append hwidth ?_
    rcases List.cons_lt_cons_iff.mp h with hlt | ⟨rfl, hlt⟩
    · refine .inl (lt_of_digitsValue_lt hwidth (isDigits_zeroPadded _ _) (isDigits_zeroPadded _ _) ?_)
      rw [digitsValue_zeroPadded, digitsValue_zeroPadded]
      exact hlt
    · exact .inr ⟨rfl, List.append_left_lt (ih (Nat.succ.inj hns) (Nat.succ.inj hms) hrest hlt)⟩

end SqlDraft
