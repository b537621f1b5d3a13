import SqlDraft.Proofs.Outcome
import SqlDraft.Sql.Query

/-!
# Values that can be written

A value has a text unless an integer in it has too many digits. In the same way a text gives a row limit
unless the integer that it starts with has too many digits, and a decimal number unless no memory can hold it.

* `withinDigitLimit_iff`, `firstTooLong`: the integers that have few enough digits, and the first that has not.
* `Value.integers`, `Value.Writable`: the integers that a value shows, and the values with a text.
* `Value.exists_quoted_iff`, `exists_shown_iff`: exactly these values have a quoted form, and a text.
* `Value.plainText`, `Value.literal`: their texts and literals.
* `Value.LegibleLimit`: the values that are read as a limit.
* `Value.limitReading`, `limitOf_of_legible`: what they are read as.
* `Value.LimitFault`, `limitOf_of_illegible`: what the others are refused for.
-/

namespace SqlDraft

theorem length_decimalDigits_le_iff (n : Nat) {k : Nat} (hk : 0 < k) :
    (decimalDigits n).length ≤ k ↔ n < Nat.pow 10 k := Nat.length_toDigits_le_iff (by decide) hk

theorem withinDigitLimit_iff (i : Int) :
    withinDigitLimit i = true ↔ i.natAbs < Nat.pow 10 digitLimit := by
  have hpositive : 0 < digitLimit := by decide
  rw [withinDigitLimit, decide_eq_true_eq, length_decimalDigits_le_iff _ hpositive]

/-- The first integer above zero that has too many digits. -/
def firstTooLong : Int := Nat.pow 10 digitLimit

theorem firstTooLong_pos : 0 < firstTooLong := by
  rw [firstTooLong, Int.natCast_pos]
  generalize digitLimit = k
  exact Nat.pow_pos (by decide)

theorem withinDigitLimit_firstTooLong : withinDigitLimit firstTooLong = false := by
  rw [Bool.eq_false_iff, Ne, withinDigitLimit_iff, firstTooLong, Int.natAbs_natCast]
  exact Nat.lt_irrefl _

theorem signedText_of_tooLong {i : Int} (h : withinDigitLimit i = false) :
    signedText i = .error (.tooManyDigits none) := by
  rw [signedText, h]
  rfl

namespace Value

/-! ## Integers in a value -/

mutual

/-- The integers that the quoted form of a value shows in full. -/
def integers : Value → List Int
  | int i => [i]
  | list xs => itemIntegers xs
  | tuple xs => itemIntegers xs
  | dict es => entryIntegers es
  | _ => []

/-- The integers in the items of a sequence. -/
def itemIntegers : List Value → List Int
  | [] => []
  | v :: vs => v.integers ++ itemIntegers vs

/-- The integers in the entries of a dictionary. -/
def entryIntegers : List (Value × Value) → List Int
  | [] => []
  | (k, v) :: es => k.integers ++ v.integers ++ entryIntegers es

end

/-- A value none of whose integers has too many digits. -/
def Writable (v : Value) : Prop := ∀ i ∈ v.integers, withinDigitLimit i = true

instance (v : Value) : Decidable v.Writable :=
  inferInstanceAs (Decidable (∀ i ∈ v.integers, withinDigitLimit i = true))

theorem exists_signedText_iff (i : Int) : (∃ s, signedText i = .ok s) ↔ withinDigitLimit i = true := by
  simp only [signedText_eq_ok_iff, exists_and_left, exists_eq', and_true]

mutual

theorem exists_quoted_iff : ∀ v : Value, (∃ s, v.quoted = .ok s) ↔ v.Writable
  | int i => by
    rw [quoted, exists_signedText_iff, Writable, integers]
    simp
  | list xs => by
    rw [quoted, exists_map_iff, exists_quotedItems_iff xs, Writable, integers]
  | tuple xs => by
    rw [quoted, exists_map_iff, exists_quotedItems_iff xs, Writable, integers]
  | dict es => by
    rw [quoted, exists_map_iff, exists_quotedEntries_iff es, Writable, integers]
  | null | bool _ | float _ | decimal _ | text _ | bytes _ | date _ | moment _ => by
    simp [quoted, Writable, integers]

theorem exists_quotedItems_iff : ∀ vs : List Value,
    (∃ ss, quotedItems vs = .ok ss) ↔ ∀ i ∈ itemIntegers vs, withinDigitLimit i = true
  | [] => by simp [quotedItems, itemIntegers]
  | v :: vs => by
    have hv := exists_quoted_iff v
    have hvs := exists_quotedItems_iff vs
    simp only [quotedItems, itemIntegers, List.forall_mem_append]
    rw [← hvs, ← Writable, ← hv]
    cases v.quoted <;> cases quotedItems vs <;> simp [pure, Except.pure]

theorem exists_quotedEntries_iff : ∀ es : List (Value × Value),
    (∃ ss, quotedEntries es = .ok ss) ↔ ∀ i ∈ entryIntegers es, withinDigitLimit i = true
  | [] => by simp [quotedEntries, entryIntegers]
  | (k, v) :: es => by
    have hk := exists_quoted_iff k
    have hv := exists_quoted_iff v
    have hes := exists_quotedEntries_iff es
    simp only [quotedEntries, entryIntegers, List.forall_mem_append]
    rw [← hes, ← Writable, ← Writable, ← hk, ← hv]
    cases k.quoted <;> cases v.quoted <;> cases quotedEntries es <;> simp [pure, Except.pure]

end

/-! ## Texts and literals -/

/-- The text of a value, empty if it has none. -/
def plainText (v : Value) : String :=
  match v.shown with
  | .ok s => s
  | .error _ => ""

/-- The literal of a value, empty if it has none. -/
def literal (v : Value) : String :=
  match quote v with
  | .ok s => s
  | .error _ => ""

/-- Exactly the values none of whose integers has too many digits have a text. -/
theorem exists_shown_iff (v : Value) : (∃ s, v.shown = .ok s) ↔ v.Writable := by
  cases v with
  | text | decimal | date | moment => exact ⟨fun _ => nofun, fun _ => ⟨_, rfl⟩⟩
  | _ => exact exists_quoted_iff _

theorem exists_quote {v : Value} (h : v.Writable) : ∃ s, quote v = .ok s := by
  cases v with
  | null | bool => exact ⟨_, rfl⟩
  | int | float | decimal => exact (exists_shown_iff _).mpr h
  | _ => exact exists_map_iff.mpr ((exists_shown_iff _).mpr h)

theorem shown_eq_plainText {v : Value} (h : v.Writable) : v.shown = .ok v.plainText := by
  obtain ⟨s, hs⟩ := (exists_shown_iff v).mpr h
  rw [plainText, hs]

theorem quote_eq_literal {v : Value} (h : v.Writable) : quote v = .ok v.literal := by
  obtain ⟨s, hs⟩ := exists_quote h
  rw [literal, hs]

end Value

/-! ## Limits -/

namespace Value

/-- A value from which a limit is read: no text that starts with too many digits, and no decimal number that no
memory can hold. -/
def LegibleLimit : Value → Prop
  | text s => ∀ r ∈ leadingDigits s.toList, r.2.length ≤ digitLimit
  | decimal x => x.fitsMemory = true
  | _ => True

instance (v : Value) : Decidable v.LegibleLimit :=
  match v with
  | text s => inferInstanceAs (Decidable (∀ r ∈ leadingDigits s.toList, r.2.length ≤ digitLimit))
  | decimal x => inferInstanceAs (Decidable (x.fitsMemory = true))
  | null | bool _ | int _ | float _ | list _ | tuple _ | dict _ | bytes _ | date _ | moment _ => isTrue trivial

/-- What a value that is no legible limit is refused for. -/
def LimitFault (v : Value) (f : Fault) : Prop :=
  match v with
  | text _ => ∃ n, digitLimit < n ∧ f = .tooManyDigits (some n)
  | _ => f = .outOfMemory

/-- The integer that a value gives as a limit: what a text starts with, a number without its fraction, and zero
for everything else. -/
def limitReading : Value → Int
  | text s =>
    match leadingDigits s.toList with
    | none => 0
    | some (negative, ds) => Binary64.signed negative (digitsValue ds)
  | v =>
    match v.toInteger with
    | .ok i => i
    | .error _ => 0

/-- Reading an integer that is no decimal number takes no more memory than there is. -/
theorem toInteger_ne_outOfMemory {v : Value} (h : v.LegibleLimit) (hv : ∀ s, v ≠ text s) :
    v.toInteger ≠ .error .outOfMemory := by
  cases v with
  | text s => exact absurd rfl (hv s)
  | decimal x =>
    intro hx
    have hfits : x.fitsMemory = true := h
    rw [toInteger, DecimalNumber.truncate_eq_outOfMemory_iff, hfits] at hx
    cases hx
  | float x =>
    rw [toInteger, Binary64.truncate]
    split <;> rintro ⟨⟩
  | bytes bs =>
    rw [toInteger, readByteInteger, readIntegerChars]
    dsimp only
    repeat' split
    all_goals rintro ⟨⟩
  | _ => rintro ⟨⟩

theorem limitOf_of_legible {v : Value} (h : v.LegibleLimit) : Query.limitOf v = .ok v.limitReading := by
  cases v with
  | text s =>
    simp only [Query.limitOf, leadingInteger, limitReading]
    cases hd : leadingDigits s.toList with
    | none => rfl
    | some r => exact if_neg (Nat.not_lt.mpr (h r hd))
  | _ =>
    have hmemory := toInteger_ne_outOfMemory h (by rintro _ ⟨⟩)
    simp only [Query.limitOf, limitReading]
    split <;> simp_all

theorem limitOf_of_illegible {v : Value} (h : ¬v.LegibleLimit) :
    ∃ f, v.LimitFault f ∧ Query.limitOf v = .error f := by
  cases v with
  | text s =>
    simp only [LegibleLimit, Classical.not_forall, Nat.not_le] at h
    obtain ⟨r, hr, hlength⟩ := h
    refine ⟨_, ⟨r.2.length, hlength, rfl⟩, ?_⟩
    show leadingInteger s = _
    rw [leadingInteger, Option.mem_def.mp hr]
    exact if_pos hlength
  | decimal x =>
    have hlarge : x.fitsMemory = false := Bool.not_eq_true _ ▸ h
    refine ⟨_, rfl, ?_⟩
    rw [Query.limitOf, toInteger, (x.truncate_eq_outOfMemory_iff).mpr hlarge]
    rintro _ ⟨⟩
  | _ => exact absurd trivial h

end Value

end SqlDraft
