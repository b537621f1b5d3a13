import Mathlib.Data.Nat.Digits.Defs
import SqlDraft.Proofs.Cancelling
import SqlDraft.Proofs.Limits

/-!
# Integers at the start of a text

A text gives a row limit by the integer that it starts with. What that is can be said without a scan: cut the
text into blanks, a sign, digits that no further digit follows, and a rest. There is at most one such cut, and
the digits count by their places, whatever their scripts.

* `placeValue`, `digitsValue_eq_placeValue`: the number that digits denote by their places.
* `Sign`, `LeadingInteger`: the cut; `LeadingInteger.subsingleton`: there is at most one.
* `LeadingInteger.leadingDigits_eq`, `leadingDigits_eq_none`: the scan finds it, if there is one.
* `LeadingInteger.ofInteger`: an integer that is written in front of a text is the one it starts with.
* `Value.CountsAs`: which integer a limit counts as.
* `Query.step_of_countsAs`, `after_of_countsAs`: one such limit, and any number of them.
* `Query.limit_is_leading_integer`: all of this for every query.
-/

namespace SqlDraft

/-! ## Digits -/

/-- The number that decimal digits of any scripts denote by their places. -/
def placeValue (ds : List Char) : Nat :=
  Nat.ofDigits 10 (ds.reverse.map fun c => (digitValue? c).getD 0)

theorem digitsValue_eq_placeValue (ds : List Char) : digitsValue ds = placeValue ds := by
  induction ds using List.reverseRecOn with
  | nil => rfl
  | append_singleton ds c ih =>
    have hlast : digitsValue (ds ++ [c]) = 10 * digitsValue ds + (digitValue? c).getD 0 := by
      simp only [digitsValue, List.foldl_append, List.foldl_cons, List.foldl_nil]
    rw [hlast, ih, placeValue, placeValue, List.reverse_append, List.reverse_singleton, List.singleton_append,
      List.map_cons, Nat.ofDigits_cons, Nat.add_comm]

/-- No digit is a blank: their ranges lie apart. -/
theorem isBlank_of_isDecimalDigit {c : Char} (h : isDecimalDigit c = true) : isBlank c = false := by
  have hapart : ∀ d ∈ digitRanges, ∀ b ∈ blankRanges, d.2 < b.1 ∨ b.2 < d.1 := by decide
  obtain ⟨d, hd, hd₁, hd₂⟩ := (digitRanges.contains_iff c.toNat).mp h
  refine Bool.eq_false_iff.mpr fun hblank => ?_
  obtain ⟨b, hb, hb₁, hb₂⟩ := (blankRanges.contains_iff c.toNat).mp hblank
  have := hapart d hd b hb
  omega

/-- The common digits are digits with their common values. -/
theorem digitValue?_of_isDigit {c : Char} (h : c.isDigit = true) :
    digitValue? c = some (c.toNat - '0'.toNat) := by
  obtain ⟨h₁, h₂⟩ : 48 ≤ c.toNat ∧ c.toNat ≤ 57 := by
    simpa [Char.isDigit, UInt32.le_iff_toNat_le] using h
  have hfirst : digitRanges.find? c.toNat = some (48, 57) :=
    List.find?_cons_of_pos (by simp [h₁, h₂])
  rw [digitValue?, hfirst]
  exact congrArg some (Nat.mod_eq_of_lt (by omega))

theorem isDecimalDigit_of_isDigit {c : Char} (h : c.isDigit = true) : isDecimalDigit c = true := by
  rw [← digitValue?_isSome, digitValue?_of_isDigit h]
  rfl

theorem isDigit_of_mem_decimalDigits {n : Nat} {c : Char} (h : c ∈ decimalDigits n) : c.isDigit = true :=
  Nat.isDigit_of_mem_toDigits (by decide) (by decide) h

theorem placeValue_decimalDigits (n : Nat) : placeValue (decimalDigits n) = n := by
  have hcommon : digitsValue (decimalDigits n) = Nat.ofDigitChars 10 (decimalDigits n) 0 := by
    rw [digitsValue, Nat.ofDigitChars_eq_foldl]
    refine List.foldl_ext _ _ _ fun m c hc => ?_
    rw [digitValue?_of_isDigit (isDigit_of_mem_decimalDigits hc)]
    rfl
  rw [← digitsValue_eq_placeValue, hcommon]
  exact Nat.ofDigitChars_ten_toDigits

/-! ## The cut -/

/-- A sign in front of digits, or none. -/
inductive Sign
  | absent | plus | minus
  deriving DecidableEq

/-- A sign as it is written. -/
def Sign.chars : Sign → List Char
  | absent => []
  | plus => ['+']
  | minus => ['-']

/-- A text that starts with an integer, cut into blanks, a sign, digits that no further digit follows, and the
rest. -/
@[ext]
structure LeadingInteger (cs : List Char) where
  blanks : List Char
  sign : Sign
  digits : List Char
  rest : List Char
  eq : cs = blanks ++ (sign.chars ++ (digits ++ rest))
  isBlank_of_mem : ∀ c ∈ blanks, isBlank c = true
  digits_ne_nil : digits ≠ []
  isDecimalDigit_of_mem : ∀ c ∈ digits, isDecimalDigit c = true
  rest_head : ∀ c ∈ rest.head?, isDecimalDigit c = false

namespace LeadingInteger

variable {cs : List Char} (d : LeadingInteger cs)

/-- The integer that a text starts with. -/
def value : Int := if d.sign = .minus then -(placeValue d.digits : Int) else placeValue d.digits

theorem exists_digits_eq_cons : ∃ c ds, d.digits = c :: ds ∧ isDecimalDigit c = true := by
  obtain ⟨c, ds, hds⟩ := List.exists_cons_of_ne_nil d.digits_ne_nil
  exact ⟨c, ds, hds, d.isDecimalDigit_of_mem c (hds ▸ List.mem_cons_self)⟩

/-- What follows the blanks starts with none. -/
theorem not_isBlank_head : ∀ c ∈ (d.sign.chars ++ (d.digits ++ d.rest)).head?, isBlank c = false := by
  obtain ⟨c, ds, hds, hc⟩ := d.exists_digits_eq_cons
  intro b hb
  cases hs : d.sign with
  | absent =>
    rw [hs, hds] at hb
    obtain rfl : c = b := Option.some.inj hb
    exact isBlank_of_isDecimalDigit hc
  | plus =>
    rw [hs] at hb
    obtain rfl : '+' = b := Option.some.inj hb
    decide
  | minus =>
    rw [hs] at hb
    obtain rfl : '-' = b := Option.some.inj hb
    decide

theorem blanks_eq : cs.takeWhile isBlank = d.blanks := by
  conv => lhs; rw [d.eq]
  exact takeWhile_append_of_head d.isBlank_of_mem d.not_isBlank_head

theorem behind_blanks_eq :
    cs.dropWhile isBlank = d.sign.chars ++ (d.digits ++ d.rest) := by
  conv => lhs; rw [d.eq]
  exact dropWhile_append_of_head d.isBlank_of_mem d.not_isBlank_head

theorem takeSign_eq :
    takeSign (d.sign.chars ++ (d.digits ++ d.rest)) = (decide (d.sign = .minus), d.digits ++ d.rest) := by
  cases hs : d.sign with
  | plus | minus => rfl
  | absent =>
    obtain ⟨c, ds, hds, hc⟩ := d.exists_digits_eq_cons
    have hne (b : Char) (hb : isDecimalDigit b = false) : c ≠ b := by
      rintro rfl
      rw [hb] at hc
      cases hc
    rw [hds]
    show takeSign (c :: (ds ++ d.rest)) = (false, c :: (ds ++ d.rest))
    unfold takeSign
    split
    · rename_i h
      exact absurd (List.cons.inj h).1 (hne '-' (by decide))
    · rename_i h
      exact absurd (List.cons.inj h).1 (hne '+' (by decide))
    · rfl

theorem digits_eq : (d.digits ++ d.rest).takeWhile isDecimalDigit = d.digits :=
  takeWhile_append_of_head d.isDecimalDigit_of_mem d.rest_head

theorem rest_eq : (d.digits ++ d.rest).dropWhile isDecimalDigit = d.rest :=
  dropWhile_append_of_head d.isDecimalDigit_of_mem d.rest_head

/-- The scan finds the cut. -/
theorem leadingDigits_eq :
    leadingDigits cs = some (decide (d.sign = .minus), d.digits) := by
  obtain ⟨c, ds, hds, -⟩ := d.exists_digits_eq_cons
  rw [leadingDigits, d.behind_blanks_eq, d.takeSign_eq]
  dsimp only
  rw [d.digits_eq, hds]

/-- There is at most one cut: the blanks end where they can, the sign is the character behind them, and the
digits end where they can. -/
theorem subsingleton (cs : List Char) : Subsingleton (LeadingInteger cs) := by
  refine ⟨fun d e => ?_⟩
  have hblanks : d.blanks = e.blanks := d.blanks_eq.symm.trans e.blanks_eq
  have hbehind : d.sign.chars ++ (d.digits ++ d.rest) = e.sign.chars ++ (e.digits ++ e.rest) :=
    d.behind_blanks_eq.symm.trans e.behind_blanks_eq
  have htaken := congrArg takeSign hbehind
  rw [d.takeSign_eq, e.takeSign_eq, Prod.mk.injEq] at htaken
  obtain ⟨-, hbody⟩ := htaken
  have hsign : d.sign = e.sign := by
    rw [hbody] at hbehind
    have hchars := List.append_cancel_right hbehind
    cases hd : d.sign <;> cases he : e.sign <;> rw [hd, he] at hchars <;> first | rfl | cases hchars
  have hdigits : d.digits = e.digits := by rw [← d.digits_eq, hbody, e.digits_eq]
  have hrest : d.rest = e.rest := by rw [← d.rest_eq, hbody, e.rest_eq]
  exact LeadingInteger.ext hblanks hsign hdigits hrest

theorem exists_sign (cs : List Char) : ∃ sign : Sign, cs = sign.chars ++ (takeSign cs).2 := by
  unfold takeSign
  split
  · exact ⟨.minus, rfl⟩
  · exact ⟨.plus, rfl⟩
  · exact ⟨.absent, rfl⟩

/-- What the scan finds is a cut. -/
theorem nonempty_of_leadingDigits {r : Bool × List Char} (h : leadingDigits cs = some r) :
    Nonempty (LeadingInteger cs) := by
  rw [leadingDigits] at h
  obtain ⟨sign, hsign⟩ := exists_sign (cs.dropWhile isBlank)
  generalize (takeSign (cs.dropWhile isBlank)) = taken at h hsign
  obtain ⟨negative, body⟩ := taken
  refine ⟨{
    blanks := cs.takeWhile isBlank
    sign := sign
    digits := body.takeWhile isDecimalDigit
    rest := body.dropWhile isDecimalDigit
    eq := ?_
    isBlank_of_mem := fun c hc => List.all_eq_true.mp List.all_takeWhile c hc
    digits_ne_nil := fun hnil => ?_
    isDecimalDigit_of_mem := fun c hc => List.all_eq_true.mp List.all_takeWhile c hc
    rest_head := fun c hc => ?_ }⟩
  · rw [List.takeWhile_append_dropWhile, ← hsign, List.takeWhile_append_dropWhile]
  · simp only [hnil] at h
    cases h
  · have hhead := List.head?_dropWhile_not isDecimalDigit body
    rw [Option.mem_def.mp hc] at hhead
    simpa using hhead

theorem leadingDigits_eq_none (h : IsEmpty (LeadingInteger cs)) : leadingDigits cs = none :=
  Option.eq_none_iff_forall_ne_some.mpr fun _ hr => not_nonempty_iff.mpr h (nonempty_of_leadingDigits hr)

/-- An integer that is written in front of a text is the one that the text starts with, unless the text goes on
with a digit. -/
def ofInteger (n : Int) {rest : List Char} (heq : cs = integerChars n ++ rest)
    (h : ∀ c ∈ rest.head?, isDecimalDigit c = false) : LeadingInteger cs where
  blanks := []
  sign := if n < 0 then .minus else .absent
  digits := decimalDigits n.natAbs
  rest := rest
  eq := by
    rw [heq]
    cases n with
    | ofNat n => rfl
    | negSucc n =>
      rw [if_pos (Int.negSucc_lt_zero n)]
      rfl
  isBlank_of_mem := nofun
  digits_ne_nil := Nat.toDigits_ne_nil
  isDecimalDigit_of_mem _ hc := isDecimalDigit_of_isDigit (isDigit_of_mem_decimalDigits hc)
  rest_head := h

theorem value_ofInteger (n : Int) {rest : List Char} (heq : cs = integerChars n ++ rest)
    (h : ∀ c ∈ rest.head?, isDecimalDigit c = false) : (ofInteger n heq h).value = n := by
  have hsign : (ofInteger n heq h).sign = if n < 0 then .minus else .absent := rfl
  have hplace : placeValue (ofInteger n heq h).digits = n.natAbs := placeValue_decimalDigits n.natAbs
  rw [value, hsign, hplace]
  by_cases hn : n < 0
  · rw [if_pos hn, if_pos rfl]
    omega
  · rw [if_neg hn, if_neg (by decide)]
    omega

end LeadingInteger

/-! ## Limits -/

/-- The integer that a limit counts as: an integer counts as itself, a text as the integer that it starts with,
and as zero if it starts with none. Texts that start with too many digits are left out. -/
inductive Value.CountsAs : Value → Int → Prop
  | integer (n : Int) : CountsAs (.int n) n
  | leading {s : String} (d : LeadingInteger s.toList) (h : d.digits.length ≤ digitLimit) :
    CountsAs (.text s) d.value
  | nothing {s : String} (h : IsEmpty (LeadingInteger s.toList)) : CountsAs (.text s) 0

namespace Value.CountsAs

variable {v : Value} {n : Int}

theorem legible (h : v.CountsAs n) : v.LegibleLimit := by
  cases h with
  | integer => trivial
  | leading d h =>
    intro r hr
    rw [d.leadingDigits_eq, Option.mem_some_iff] at hr
    exact hr ▸ h
  | nothing h =>
    intro r hr
    rw [LeadingInteger.leadingDigits_eq_none h] at hr
    cases hr

theorem limitReading_eq (h : v.CountsAs n) : v.limitReading = n := by
  cases h with
  | integer => rfl
  | leading d h =>
    simp only [limitReading, d.leadingDigits_eq, digitsValue_eq_placeValue, LeadingInteger.value,
      Binary64.signed, decide_eq_true_eq]
  | nothing h => simp only [limitReading, LeadingInteger.leadingDigits_eq_none h]

/-- An integer that can be written counts as itself in front of a text, unless the text goes on with a digit. -/
theorem of_shown {s : String} (hs : (Value.int n).shown = .ok s) {r : String}
    (hr : ∀ c ∈ r.toList.head?, isDecimalDigit c = false) : (Value.text (s ++ r)).CountsAs n := by
  obtain ⟨hwithin, rfl⟩ := (signedText_eq_ok_iff n s).mp hs
  have htext : (integerText n ++ r).toList = integerChars n ++ r.toList := by
    rw [String.toList_append, integerText, String.toList_ofList]
  have hlength : (LeadingInteger.ofInteger n htext hr).digits.length ≤ digitLimit := of_decide_eq_true hwithin
  have hcounts := leading (LeadingInteger.ofInteger n htext hr) hlength
  rwa [LeadingInteger.value_ofInteger] at hcounts

end Value.CountsAs

namespace Query

/-- The last of some integers that is above zero. -/
def lastPositive (ns : List Int) : Option Int := (ns.filter (0 < ·)).getLast?

variable {q : Query} {v : Value} {n : Int}

/-- **One limit.** A limit that counts as an integer above zero is kept; any other is passed over, with a notice
that shows it. -/
theorem step_of_countsAs (h : v.CountsAs n) :
    q.step (.setLimit v) =
      ⟨q.limited n, .ok .none, if 0 < n then [] else limitNotice v, []⟩ := by
  show (q.limitEffect v).silent = _
  rw [limitEffect, setLimit, Value.limitOf_of_legible h.legible, h.limitReading_eq, ok_bind, limited]
  by_cases hpos : 0 < n
  · simp only [if_pos hpos]
    rfl
  · simp only [if_neg hpos]
    rfl

/-- **Any number of limits.** The last one above zero is kept, or the limit that was there. -/
theorem after_of_countsAs {vs : List Value} {ns : List Int} (h : List.Forall₂ Value.CountsAs vs ns) :
    q.after (vs.map .setLimit) = q.setMember .limit ((lastPositive ns).elim q.state.limit .int) := by
  induction h generalizing q with
  | nil => rfl
  | @cons v n vs ns hv _ ih =>
    rw [List.map_cons, after, List.foldl_cons, step_of_countsAs hv]
    refine Eq.trans ih ?_
    by_cases hpos : 0 < n
    · have hlast : lastPositive (n :: ns) = some ((lastPositive ns).getD n) := by
        rw [lastPositive, List.filter_cons_of_pos (by simpa using hpos), List.getLast?_cons]
        rfl
      rw [hlast, limited, if_pos hpos]
      cases lastPositive ns <;> rfl
    · have hlast : lastPositive (n :: ns) = lastPositive ns := by
        rw [lastPositive, List.filter_cons_of_neg (by simpa using hpos)]
        rfl
      rw [hlast, limited, if_neg hpos]

/-- **Limits out of texts.** A text can be cut into blanks, a sign, digits and a rest in one way at most. If it
can, and the digits are not too many, it sets the limit to the number that they denote, unless that is zero or
the sign is a minus. Any other text with few enough digits changes nothing. So an integer acts in the same way
as a text that starts with it; one that is passed over is shown in a notice as it was handed over. Of limits one
after the other the last one above zero stays. -/
theorem limit_is_leading_integer (q : Query) :
    (∀ cs, Subsingleton (LeadingInteger cs)) ∧
    (∀ (s : String) (d : LeadingInteger s.toList), d.digits.length ≤ digitLimit →
      let e := q.step (.setLimit (.text s))
      e.answer = .ok .none ∧
        e.query = if d.sign ≠ .minus ∧ 0 < placeValue d.digits
          then q.setMember .limit (.int (placeValue d.digits)) else q) ∧
    (∀ s : String, IsEmpty (LeadingInteger s.toList) →
      let e := q.step (.setLimit (.text s))
      e.answer = .ok .none ∧ e.query = q) ∧
    (∀ n : Int, withinDigitLimit n = true → ∃ s, (Value.int n).shown = .ok s ∧
      ∀ r : String, (∀ c ∈ r.toList.head?, isDecimalDigit c = false) →
        let e := q.step (.setLimit (.text (s ++ r)))
        let e' := q.step (.setLimit (.int n))
        (Value.text (s ++ r)).CountsAs n ∧ e.query = e'.query ∧ e.answer = e'.answer ∧ e.sent = e'.sent ∧
          (0 < n → e = e')) ∧
    ∀ (vs : List Value) (ns : List Int), List.Forall₂ Value.CountsAs vs ns →
      q.after (vs.map .setLimit) = q.setMember .limit ((lastPositive ns).elim q.state.limit .int) := by
  refine ⟨LeadingInteger.subsingleton, fun s d hd => ?_, fun s h => ?_, fun n hn => ?_,
    fun vs ns h => after_of_countsAs h⟩
  · rw [step_of_countsAs (.leading d hd)]
    refine ⟨rfl, ?_⟩
    show q.limited d.value = _
    rw [limited, LeadingInteger.value]
    by_cases hsign : d.sign = .minus
    · have hneg : ¬0 < -(placeValue d.digits : Int) := by omega
      rw [if_pos hsign, if_neg hneg, if_neg fun h => h.1 hsign]
    · rw [if_neg hsign]
      simp [hsign]
  · rw [step_of_countsAs (.nothing h)]
    exact ⟨rfl, rfl⟩
  · have hshown : (Value.int n).shown = .ok (integerText n) := (signedText_eq_ok_iff n _).mpr ⟨hn, rfl⟩
    refine ⟨_, hshown, fun r hr => ?_⟩
    have hcounts := Value.CountsAs.of_shown hshown hr
    rw [step_of_countsAs hcounts, step_of_countsAs (.integer n)]
    refine ⟨hcounts, rfl, rfl, rfl, fun hpos => ?_⟩
    rw [if_pos hpos, if_pos hpos]

/-- Digits of two scripts behind a blank and a sign, a minus, and limits one after the other. -/
theorem limit_is_leading_integer_mixed :
    let q := blank (.text "") none
    (q.step (.setLimit (.text "\u2003+\u06634 rows"))).query = q.setMember .limit (.int 34) ∧
      (q.step (.setLimit (.text "- 5"))).query = q ∧
      (q.step (.setLimit (.text "12e3"))).query = (q.step (.setLimit (.int 12))).query ∧
      q.after ([.text "12e3", .text "-7", .text "- 5"].map .setLimit) = q.setMember .limit (.int 12) := by
  intro q
  obtain ⟨-, hleading, hnothing, hshown, hmany⟩ := limit_is_leading_integer q
  let d : LeadingInteger "\u2003+\u06634 rows".toList :=
    { blanks := ['\u2003'], sign := .plus, digits := ['\u0663', '4'], rest := " rows".toList, eq := by decide
      isBlank_of_mem := List.all_eq_true.mp (by decide), digits_ne_nil := by decide
      isDecimalDigit_of_mem := List.all_eq_true.mp (by decide), rest_head := by rintro c ⟨⟩; rfl }
  have hnone : IsEmpty (LeadingInteger "- 5".toList) := by
    refine ⟨fun d => ?_⟩
    have hscan : leadingDigits "- 5".toList = none := by decide
    rw [d.leadingDigits_eq] at hscan
    cases hscan
  obtain ⟨s, hs, htwelve⟩ := hshown 12 (by decide)
  obtain ⟨-, rfl⟩ := (signedText_eq_ok_iff 12 s).mp ((Value.shown_int 12).symm.trans hs)
  obtain ⟨t, ht, hseven⟩ := hshown (-7) (by decide)
  obtain ⟨-, rfl⟩ := (signedText_eq_ok_iff (-7) t).mp ((Value.shown_int (-7)).symm.trans ht)
  have htwelve := htwelve "e3" (by rintro c ⟨⟩; rfl)
  refine ⟨?_, (hnothing "- 5" hnone).2, htwelve.2.1, ?_⟩
  · have hplace : placeValue d.digits = 34 := by decide
    rw [(hleading _ d (by decide)).2, hplace]
    exact if_pos ⟨by decide, by decide⟩
  · have hcounts : List.Forall₂ Value.CountsAs [.text "12e3", .text "-7", .text "- 5"] [12, -7, 0] :=
      .cons htwelve.1 (.cons (hseven "" nofun).1 (.cons (.nothing hnone) .nil))
    exact hmany _ _ hcounts

end Query

end SqlDraft
