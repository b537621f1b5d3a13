import SqlDraft.Proofs.WellTyped

/-!
# Row limits

Any value can be handed over as a row limit. It is refused if it is a text that starts with too many digits, or
a decimal number with more digits than any memory holds, and passed over if it gives no integer above zero. A
limit that is kept is written only when a statement is, and one that has too many digits cannot be written. Such
a limit comes from an integer or a decimal number: a text with as many digits is refused, and the largest binary
number has far fewer.

* `Value.OrdinaryLimit`: the values that every machine can read as a limit.
* `Binary64.truncate_lt`, `readIntegerChars_lt`: integers that have few enough digits for what they come from.
* `Value.withinDigitLimit_limitReading`: only integers and decimal numbers give one with too many digits.
* `Query.limited`, `step_setLimit`, `step_setLimit_of_illegible`, `after_setLimits`: one limit, and any number.
* `StatementKind.render_limit`: a limit comes last in a statement, and nothing else depends on it.
* `Query.limits_kept_and_written`: which limits are kept, and which of them can be written.
-/

namespace SqlDraft

/-! ## Integers with few digits -/

namespace Binary64

theorem natAbs_signed (negative : Bool) (n : Nat) : (signed negative n).natAbs = n := by
  unfold signed
  split <;> omega

/-- A finite number has at most 53 binary digits, and at most 971 zeros behind them. -/
theorem form_bounds {x : Binary64} {negative : Bool} {m : Nat} {q : Int}
    (h : x.form = .finite negative m q) : m < Nat.pow 2 53 ∧ q ≤ largestExponent := by
  have hfraction : Nat.pow 2 fractionBits = 4503599627370496 := rfl
  have hexponents : Nat.pow 2 11 = 2048 := rfl
  have hbound : Nat.pow 2 53 = 9007199254740992 := rfl
  have hleast : leastExponent = -1074 := rfl
  have hlargest : largestExponent = 971 := rfl
  unfold form at h
  simp only [hfraction, hexponents] at h
  split at h
  · split at h <;> cases h
  · split at h
    · cases h
      omega
    · cases h
      omega

theorem wholePart_lt {m k : Nat} {q : Int} (hm : m < Nat.pow 2 53) (hk : 53 + q.toNat ≤ k) :
    wholePart m q < Nat.pow 10 k := by
  calc wholePart m q
      ≤ m * 2 ^ q.toNat := Nat.div_le_self ..
    _ < 2 ^ 53 * 2 ^ q.toNat := Nat.mul_lt_mul_of_pos_right hm (Nat.pow_pos (by decide))
    _ = 2 ^ (53 + q.toNat) := (Nat.pow_add ..).symm
    _ ≤ 2 ^ k := Nat.pow_le_pow_right (by decide) hk
    _ ≤ 10 ^ k := Nat.pow_le_pow_left (by decide) k

theorem truncate_lt {x : Binary64} {i : Int} (h : x.truncate = .ok i) :
    i.natAbs < Nat.pow 10 digitLimit := by
  have hlimit : digitLimit = 4300 := rfl
  have hlargest : largestExponent = 971 := rfl
  unfold truncate at h
  split at h
  · cases h
  · cases h
  · rename_i hform
    obtain ⟨hm, hq⟩ := form_bounds hform
    cases h
    rw [natAbs_signed]
    exact wholePart_lt hm (by omega)

end Binary64

theorem digitsValue_lt_of_length {ds : List Char} {k : Nat} (h : ds.length ≤ k) :
    digitsValue ds < Nat.pow 10 k :=
  Nat.lt_of_lt_of_le (digitsValue_lt ds) (Nat.pow_le_pow_right (by decide) h)

/-- What is read from digits has no more digits than they are. -/
theorem readIntegerChars_lt {shown : String} {blank digit : Char → Bool} {cs : List Char} {i : Int}
    (h : readIntegerChars shown blank digit cs = .ok i) : i.natAbs < Nat.pow 10 digitLimit := by
  unfold readIntegerChars at h
  dsimp only at h
  split at h
  · cases h
  split at h
  · cases h
  split at h
  · cases h
  split at h
  · cases h
  · rename_i hlength
    split at h
    · cases h
      rw [Binary64.natAbs_signed]
      exact digitsValue_lt_of_length (Nat.not_lt.mp hlength)
    · cases h

/-! ## Readings -/

/-- The most digits before the point that decimal arithmetic gives a number, unless it is asked for more. -/
def ordinaryDigits : Nat := 1000000

/-- A value that any machine can read as a limit. The digits of a decimal number are bounded, since beyond the bound
it depends on the machine whether there is memory enough. -/
def Value.OrdinaryLimit : Value → Prop
  | decimal (.finite _ coefficient exponent) =>
    coefficient = 0 ∨ DecimalNumber.wholeDigits coefficient exponent ≤ ordinaryDigits
  | v => v.LegibleLimit

theorem Value.OrdinaryLimit.legible {v : Value} (h : v.OrdinaryLimit) : v.LegibleLimit := by
  have hbound : (ordinaryDigits : Int) ≤ DecimalNumber.addressableDigits := by decide
  cases v with
  | decimal x =>
    cases x with
    | nan | infinite => exact h
    | finite negative coefficient exponent =>
      show DecimalNumber.fitsMemory _ = true
      rw [DecimalNumber.fitsMemory, Bool.or_eq_true, beq_iff_eq, decide_eq_true_iff]
      exact h.imp_right fun hdigits => hdigits.trans hbound
  | _ => exact h

/-- Only an integer or a decimal number is read as a limit with too many digits. -/
theorem Value.withinDigitLimit_limitReading {v : Value} (hlegible : v.LegibleLimit) (hint : ∀ i, v ≠ .int i)
    (hdecimal : ∀ x, v ≠ .decimal x) : withinDigitLimit v.limitReading = true := by
  have hzero : withinDigitLimit 0 = true := by decide
  cases v with
  | int i => exact absurd rfl (hint i)
  | decimal x => exact absurd rfl (hdecimal x)
  | bool b => cases b <;> decide
  | float x =>
    simp only [limitReading, toInteger]
    split
    · rename_i hx
      exact (withinDigitLimit_iff _).mpr (Binary64.truncate_lt hx)
    · exact hzero
  | bytes bs =>
    simp only [limitReading, toInteger]
    split
    · rename_i hbs
      exact (withinDigitLimit_iff _).mpr (readIntegerChars_lt hbs)
    · exact hzero
  | text s =>
    simp only [limitReading]
    split
    · exact hzero
    · rename_i negative ds hd
      rw [withinDigitLimit_iff, Binary64.natAbs_signed]
      exact digitsValue_lt_of_length (hlegible _ hd)
  | null | list _ | tuple _ | dict _ | date _ | moment _ => exact hzero

/-! ## Calls -/

namespace Query

/-- A query with a limit, if it is above zero. -/
def limited (q : Query) (n : Int) : Query := if 0 < n then q.setMember .limit (.int n) else q

theorem step_setLimit (q : Query) {v : Value} (h : v.LegibleLimit) :
    (q.step (.setLimit v)).answer = .ok .none ∧
      (q.step (.setLimit v)).query = q.limited v.limitReading := by
  show (q.limitEffect v).silent.answer = _ ∧ (q.limitEffect v).silent.query = _
  rw [limitEffect, setLimit, Value.limitOf_of_legible h, ok_bind, limited]
  by_cases hpos : 0 < v.limitReading
  · rw [if_pos hpos, if_pos hpos]
    exact ⟨rfl, rfl⟩
  · rw [if_neg hpos, if_neg hpos]
    exact ⟨rfl, rfl⟩

/-- A limit that is refused leaves the query as it was. -/
theorem step_setLimit_of_illegible (q : Query) {v : Value} (h : ¬v.LegibleLimit) :
    (∃ f, v.LimitFault f ∧ (q.step (.setLimit v)).answer = .error f) ∧
      (q.step (.setLimit v)).query = q := by
  obtain ⟨f, hf, hlimit⟩ := Value.limitOf_of_illegible h
  have heffect : q.limitEffect v = ⟨q, .error f, [], []⟩ := by
    rw [limitEffect, setLimit, hlimit, error_bind]
  show (∃ f, _ ∧ (q.limitEffect v).silent.answer = _) ∧ (q.limitEffect v).silent.query = q
  rw [heffect]
  exact ⟨⟨f, hf, rfl⟩, rfl⟩

/-- The limits that calls may leave: the one that was there, or one above zero that a call gave. -/
def LeftBy (q : Query) (vs : List Value) (l : Value) : Prop :=
  l = q.state.limit ∨ ∃ v ∈ vs, v.LegibleLimit ∧ 0 < v.limitReading ∧ l = .int v.limitReading

/-- One call leaves the limit that was there, or sets one above zero. -/
theorem step_setLimit_left (q : Query) (v : Value) :
    ∃ l, (q.step (.setLimit v)).query = q.setMember .limit l ∧ q.LeftBy [v] l := by
  by_cases h : v.LegibleLimit
  · rw [(q.step_setLimit h).2, limited]
    by_cases hpos : 0 < v.limitReading
    · rw [if_pos hpos]
      exact ⟨_, rfl, .inr ⟨v, List.mem_singleton_self v, h, hpos, rfl⟩⟩
    · rw [if_neg hpos]
      exact ⟨q.state.limit, rfl, .inl rfl⟩
  · rw [(q.step_setLimit_of_illegible h).2]
    exact ⟨q.state.limit, rfl, .inl rfl⟩

/-- Calls that set limits change nothing but the limit. -/
theorem after_setLimits (q : Query) (vs : List Value) :
    ∃ l, q.after (vs.map .setLimit) = q.setMember .limit l ∧ q.LeftBy vs l := by
  induction vs generalizing q with
  | nil => exact ⟨q.state.limit, rfl, .inl rfl⟩
  | cons v vs ih =>
    obtain ⟨l, hstep, hl⟩ := q.step_setLimit_left v
    obtain ⟨l', hafter, hl'⟩ := ih (q.setMember .limit l)
    refine ⟨l', ?_, ?_⟩
    · rw [List.map_cons, after, List.foldl_cons, hstep]
      exact hafter
    · rcases hl' with rfl | ⟨w, hw, hlast⟩
      · rcases hl with rfl | ⟨w, hw, hfirst⟩
        · exact .inl rfl
        · rw [List.mem_singleton.mp hw] at hfirst
          exact .inr ⟨v, List.mem_cons_self, hfirst⟩
      · exact .inr ⟨w, List.mem_cons_of_mem v hw, hlast⟩

end Query

/-! ## Statements -/

/-- The limit comes last in a statement that has one, and nothing before it depends on it. -/
theorem StatementKind.render_limit {k : StatementKind} (hk : k.member = .limit) {s : State} {sql : String}
    (h : k.render s = .ok sql) :
    ∃ front, ∀ v, k.render { s with limit := v } = (limitClause v).map (front ++ ·) := by
  cases k with
  | insert | insertSelect | replace | update => cases hk
  | select =>
    obtain ⟨fields, hfields, h⟩ := bind_eq_ok_iff.mp h
    obtain ⟨tables, htables, h⟩ := bind_eq_ok_iff.mp h
    obtain ⟨joins, hjoins, h⟩ := bind_eq_ok_iff.mp h
    obtain ⟨predicates, hpredicates, h⟩ := bind_eq_ok_iff.mp h
    obtain ⟨groups, hgroups, h⟩ := bind_eq_ok_iff.mp h
    obtain ⟨orders, horders, -⟩ := bind_eq_ok_iff.mp h
    refine ⟨"SELECT " ++ fields ++ " FROM (" ++ tables ++ ") " ++ joins ++ " " ++ predicates ++ " " ++
      groups ++ " " ++ orders ++ " ", fun v => ?_⟩
    show selectStatement _ = _
    unfold selectStatement
    simp only [hfields, htables, hjoins, hpredicates, hgroups, horders, ok_bind]
    cases limitClause v <;> rfl
  | delete =>
    obtain ⟨table, htable, h⟩ := bind_eq_ok_iff.mp h
    obtain ⟨predicates, hpredicates, h⟩ := bind_eq_ok_iff.mp h
    obtain ⟨limit, -, h⟩ := bind_eq_ok_iff.mp h
    obtain ⟨name, hname, -⟩ := bind_eq_ok_iff.mp h
    refine ⟨"DELETE FROM " ++ name ++ " " ++ predicates ++ " ", fun v => ?_⟩
    show deleteStatement _ = _
    unfold deleteStatement
    simp only [htable, hpredicates, hname, ok_bind]
    cases limitClause v <;> rfl

theorem limitClause_of_tooLong {n : Int} (hpos : 0 < n) (h : withinDigitLimit n = false) :
    limitClause (.int n) = .error (.tooManyDigits none) := by
  have htext := signedText_of_tooLong h
  rw [limitClause, Value.isPositive, ok_bind, decide_eq_true hpos, if_pos rfl, Value.toInteger, ok_bind,
    htext, error_bind]

namespace Query.WellTyped

variable {q : Query}

/-- A limit is written in a statement that has one exactly if it has few enough digits. -/
theorem prepareAs_limited (h : q.WellTyped) {k : StatementKind} (hk : k.member = .limit) (clears : Bool)
    {n : Int} (hn : 0 ≤ n) :
    (withinDigitLimit n = true → ∃ sql, ((q.setMember .limit (.int n)).prepareAs k clears).answer = .ok sql) ∧
      (withinDigitLimit n = false →
        ((q.setMember .limit (.int n)).prepareAs k clears).answer = .error (.tooManyDigits none)) := by
  obtain ⟨sql, hsql⟩ := h.exists_statement k
  obtain ⟨front, hfront⟩ := StatementKind.render_limit hk hsql
  have hanswer : ((q.setMember .limit (.int n)).prepareAs k clears).answer =
      (limitClause (.int n)).map (front ++ ·) :=
    ((Preparation.of k).answer_on _ clears).trans (hfront (.int n))
  rw [hanswer]
  constructor
  · intro hwithin
    rw [limitClause_eq hwithin, map_ok]
    exact ⟨_, rfl⟩
  · intro hlong
    have hpos : 0 < n := by
      refine lt_of_le_of_ne hn fun hzero => ?_
      have hshort : withinDigitLimit 0 = true := by decide
      rw [← hzero, hshort] at hlong
      cases hlong
    rw [limitClause_of_tooLong hpos hlong, map_error]

theorem exists_limit_of_leftBy (h : q.WellTyped) {vs : List Value} {l : Value} (hl : q.LeftBy vs l) :
    ∃ n : Int, l = .int n ∧ 0 ≤ n ∧
      ((∀ v ∈ vs, withinDigitLimit v.limitReading = true) → withinDigitLimit n = true) := by
  rcases hl with rfl | ⟨v, hv, -, hpos, rfl⟩
  · obtain ⟨n, hn, h0, hlt⟩ := h.limit
    exact ⟨n, hn, h0, fun _ => withinDigitLimit_of_lt h0 hlt⟩
  · exact ⟨v.limitReading, rfl, hpos.le, fun hvs => hvs v hv⟩

end Query.WellTyped

namespace Query

/-- **Row limits.** A value is refused as a limit only if it is a text that starts with too many digits, or a
decimal number with more digits than any memory holds, and the query is then as it was. Any other value, unless it
is a decimal number with more than a million digits before the point, sets the limit if it gives an integer above
zero, and changes nothing if it does not. Only an integer or a decimal number can give one with too many digits.
However many limits a well-typed query was given, its selecting and deleting statements can be written unless the
limit that was kept has too many digits; then they cannot. -/
theorem limits_kept_and_written (q : Query) :
    (∀ v : Value, v.OrdinaryLimit →
      (q.step (.setLimit v)).answer = .ok .none ∧
        (q.step (.setLimit v)).query = q.limited v.limitReading) ∧
    (∀ v : Value, ¬v.LegibleLimit →
      (∃ f, v.LimitFault f ∧ (q.step (.setLimit v)).answer = .error f) ∧
        (q.step (.setLimit v)).query = q) ∧
    (∀ v : Value, v.LegibleLimit → (∀ i, v ≠ .int i) → (∀ x, v ≠ .decimal x) →
      withinDigitLimit v.limitReading = true) ∧
    ∀ vs : List Value, ∃ l, q.after (vs.map .setLimit) = q.setMember .limit l ∧ q.LeftBy vs l ∧
      (q.WellTyped → ∃ n : Int, l = .int n ∧ 0 ≤ n ∧
        ((∀ v ∈ vs, withinDigitLimit v.limitReading = true) → withinDigitLimit n = true) ∧
        ∀ (k : StatementKind) (clears : Bool), k.member = .limit →
          let e := (q.after (vs.map .setLimit)).prepareAs k clears
          (withinDigitLimit n = true → ∃ sql, e.answer = .ok sql) ∧
            (withinDigitLimit n = false → e.answer = .error (.tooManyDigits none))) := by
  refine ⟨fun v hv => q.step_setLimit hv.legible, fun v hv => q.step_setLimit_of_illegible hv,
    fun v hv hint hdecimal => Value.withinDigitLimit_limitReading hv hint hdecimal, fun vs => ?_⟩
  obtain ⟨l, hafter, hl⟩ := q.after_setLimits vs
  refine ⟨l, hafter, hl, fun hq => ?_⟩
  obtain ⟨n, rfl, hn, hwithin⟩ := hq.exists_limit_of_leftBy hl
  refine ⟨n, rfl, hn, hwithin, fun k clears hk => ?_⟩
  rw [hafter]
  exact hq.prepareAs_limited hk clears hn

/-- Seven rows out of a text, and then two limits that are passed over. -/
theorem limits_kept_and_written_seven :
    let q := (blank (.text "") none).clear
    let vs : List Value := [.text "7 rows", .text "none", .int (-3)]
    (q.after (vs.map .setLimit)).state.limit = .int 7 ∧
      ((∃ sql, ((q.after (vs.map .setLimit)).prepareAs .select true).answer = .ok sql) ∧
        ((q.after (vs.map .setLimit)).prepareAs .delete false).answer = .ok "DELETE FROM   LIMIT 7") := by
  intro q vs
  obtain ⟨l, hafter, -, hwritten⟩ := (limits_kept_and_written q).2.2.2 vs
  obtain ⟨n, rfl, -, hwithin, hprepared⟩ := hwritten (WellTyped.cleared rfl)
  have hvs : ∀ v ∈ vs, withinDigitLimit v.limitReading = true := by decide +kernel
  exact ⟨by rfl, (hprepared .select true rfl).1 (hwithin hvs), by decide +kernel⟩

theorem leadingDigits_ones (n : Nat) :
    leadingDigits (List.replicate (n + 1) '1') = some (false, List.replicate (n + 1) '1') := by
  have hdigits : (List.replicate (n + 1) '1').takeWhile isDecimalDigit = List.replicate (n + 1) '1' := by
    rw [List.takeWhile_replicate]
    rfl
  have hbody : (takeSign ((List.replicate (n + 1) '1').dropWhile isBlank)) =
      (false, List.replicate (n + 1) '1') := by
    rw [List.replicate_succ, List.dropWhile_cons_of_neg (by decide)]
    rfl
  rw [leadingDigits, hbody]
  dsimp only
  rw [hdigits]
  rfl

/-- A text with one digit too many is refused, and so is a decimal number with a great exponent. The first integer
with too many digits is kept and cannot be written. -/
theorem limit_refused_or_unwritable :
    let q := (blank (.text "") none).clear
    let q' := q.after [.setLimit (.int firstTooLong)]
    (q.step (.setLimit (.decimal (.finite false 1 999999999999999999)))).answer = .error .outOfMemory ∧
      (q.step (.setLimit (.text (String.ofList (List.replicate (digitLimit + 1) '1'))))).answer =
        .error (.tooManyDigits (some (digitLimit + 1))) ∧
      q'.state.limit = .int firstTooLong ∧
      (q'.prepareAs .select false).answer = .error (.tooManyDigits none) ∧
      (q'.prepareAs .delete false).answer = .error (.tooManyDigits none) := by
  have hlong := withinDigitLimit_firstTooLong
  have hpos := firstTooLong_pos
  generalize firstTooLong = i at hlong hpos ⊢
  intro q q'
  have hq : q.WellTyped := WellTyped.cleared rfl
  have hq' : q' = q.setMember .limit (.int i) :=
    (q.step_setLimit (v := .int i) trivial).2.trans (if_pos hpos)
  refine ⟨rfl, ?_, by rw [hq']; rfl, ?_, ?_⟩
  · have hlimit : limitOf (.text (String.ofList (List.replicate (digitLimit + 1) '1'))) =
        .error (.tooManyDigits (some (digitLimit + 1))) := by
      rw [limitOf, leadingInteger, String.toList_ofList, leadingDigits_ones]
      dsimp only
      rw [List.length_replicate, if_pos (Nat.lt_succ_self digitLimit)]
    show (q.limitEffect _).silent.answer = _
    rw [limitEffect, setLimit, hlimit]
    rfl
  · rw [hq']
    exact (hq.prepareAs_limited rfl false hpos.le).2 hlong
  · rw [hq']
    exact (hq.prepareAs_limited rfl false hpos.le).2 hlong

end Query

end SqlDraft
