import SqlDraft.Calendar.London
import SqlDraft.Proofs.Columns
import SqlDraft.Proofs.Instants

/-!
# Zoned time as text

The text of a moment tells what the clocks of a zone show at its instant, and so the instant, down to its
second. From the year 1000 on all of these texts are equally long, with leading zeros, and while the clocks keep
their offset they are in the order of their instants. All of this holds whatever the offset of the zone is at each
instant, and so for the clocks of London.

* `toList_plainText`, `readReading_plainText`: a reading as numbers in columns, and read back.
* `plainText_form`, `plainText_lt`: which readings are written with a fixed width, and their order.
* `zonedText_eq_ok_iff`, `zonedText_eq_error_iff`: the text of a moment, if it has one.
* `zoned_text_tells_instant`: texts and instants.
* `zoned_text_sorts`: fixed width and order.
-/

namespace SqlDraft

variable {r : Date × Clock}

/-! ## Readings as text -/

/-- The columns of a reading, with a least number of digits for the year. -/
def readingColumns (yearWidth : Nat) : List Column :=
  [⟨yearWidth, '-'⟩, ⟨2, '-'⟩, ⟨2, ' '⟩, ⟨2, ':'⟩, ⟨2, ':'⟩, ⟨2, none⟩]

theorem toList_plainText (r : Date × Clock) :
    (plainText r.1 r.2).toList = ruled (readingColumns 0) (readingNumbers r) := by
  simp [plainText, withinYearText, Clock.text, paddedNat, readingColumns, readingNumbers, ruled]

theorem toList_isoText (r : Date × Clock) :
    (r.1.isoText ++ " " ++ r.2.text).toList = ruled (readingColumns 4) (readingNumbers r) := by
  simp [Date.isoText, Clock.text, paddedNat, readingColumns, readingNumbers, ruled]

/-- The reading that a text gives: year, month, day, hour, minute and second, with the marks between them. -/
def readReading (s : String) : Option (Date × Clock) :=
  match readColumns (readingColumns 0) s.toList with
  | some [year, month, day, hour, minute, second] => some (⟨year, month, day⟩, ⟨hour, minute, second⟩)
  | _ => none

theorem separated_readingColumns (yearWidth : Nat) : Separated (readingColumns yearWidth) :=
  ⟨⟨'-', rfl, rfl⟩, ⟨'-', rfl, rfl⟩, ⟨' ', rfl, rfl⟩, ⟨':', rfl, rfl⟩, ⟨':', rfl, rfl⟩, rfl⟩

/-- The text of a reading gives this reading. -/
theorem readReading_plainText (r : Date × Clock) : readReading (plainText r.1 r.2) = some r := by
  rw [readReading, toList_plainText, readColumns_ruled (separated_readingColumns 0) rfl]
  rfl

/-! ## The form of a text -/

/-- A text with `D` for every digit. -/
def shape (s : String) : String := String.ofList (s.toList.map shapeChar)

/-- Numbers below a hundred fit in two digits. -/
theorem max_two_length {n : Nat} (h : n < 100) : max 2 (decimalDigits n).length = 2 :=
  Nat.max_eq_left ((length_decimalDigits_le_iff n (by decide)).mpr h)

theorem monthLength_le (year month : Nat) : Date.monthLength year month ≤ 31 := by
  have hall : ∀ leap : Bool, ∀ l ∈ monthLengths leap, l ≤ 31 := by decide
  rw [Date.monthLength, List.getD_eq_getElem?_getD]
  cases hl : (monthLengths (isLeap year))[month - 1]? with
  | none => exact Nat.zero_le _
  | some l => exact hall _ l (List.mem_of_getElem? hl)

/-- The columns of a reading are as wide as its year, and two digits each. -/
theorem columnWidths_reading (hdate : r.1.Genuine) (hclock : r.2.Genuine) (yearWidth : Nat) :
    columnWidths (readingColumns yearWidth) (readingNumbers r) =
      [max yearWidth (decimalDigits r.1.year).length, 2, 2, 2, 2, 2] := by
  have hmonth : r.1.month < 100 := Nat.lt_of_le_of_lt hdate.month_le (by decide)
  have hday : r.1.day < 100 :=
    Nat.lt_of_le_of_lt (Nat.le_trans hdate.day_le (monthLength_le _ _)) (by decide)
  have hhour : r.2.hour < 100 := Nat.lt_trans hclock.hour_lt (by decide)
  have hminute : r.2.minute < 100 := Nat.lt_trans hclock.minute_lt (by decide)
  have hsecond : r.2.second < 100 := Nat.lt_trans hclock.second_lt (by decide)
  simp only [columnWidths, readingColumns, readingNumbers, List.zipWith, length_zeroPadded, max_two_length hmonth,
    max_two_length hday, max_two_length hhour, max_two_length hminute, max_two_length hsecond]

/-- The shape of a reading in columns. -/
theorem map_shapeChar_reading (hdate : r.1.Genuine) (hclock : r.2.Genuine) (yearWidth : Nat) :
    (ruled (readingColumns yearWidth) (readingNumbers r)).map shapeChar =
      List.replicate (max yearWidth (decimalDigits r.1.year).length) 'D' ++ "-DD-DD DD:DD:DD".toList := by
  have hmarks : ∀ column ∈ readingColumns yearWidth, ∀ c ∈ column.mark, c.isDigit = false := by
    simp [readingColumns]
  rw [map_shapeChar_ruled hmarks, columnWidths_reading hdate hclock]
  rfl

theorem length_reading (hdate : r.1.Genuine) (hclock : r.2.Genuine) (yearWidth : Nat) :
    (ruled (readingColumns yearWidth) (readingNumbers r)).length =
      max yearWidth (decimalDigits r.1.year).length + 15 := by
  rw [← List.length_map shapeChar, map_shapeChar_reading hdate hclock, List.length_append, List.length_replicate]
  rfl

theorem zeroPadded_eq_self {width : Nat} {cs : List Char} (h : width ≤ cs.length) : zeroPadded width cs = cs := by
  rw [zeroPadded, Nat.sub_eq_zero_of_le h]
  rfl

theorem length_year_le {year : Nat} (h : year ≤ 9999) : (decimalDigits year).length ≤ 4 := by
  rw [length_decimalDigits_le_iff year (by decide)]
  exact Nat.lt_succ_of_le h

/-- Years of the calendar have four digits from 1000 on. -/
theorem length_year_iff {year : Nat} (h : year ≤ 9999) : (decimalDigits year).length = 4 ↔ 1000 ≤ year := by
  have hfour := length_year_le h
  have hthree : (decimalDigits year).length ≤ 3 ↔ year < 1000 := length_decimalDigits_le_iff year (by decide)
  omega

/-- A reading is written with leading zeros, and in the usual shape, exactly if its year needs no zeros. -/
theorem plainText_form (hdate : r.1.Genuine) (hclock : r.2.Genuine) (hyear : r.1.year ≤ 9999) :
    (plainText r.1 r.2 = r.1.isoText ++ " " ++ r.2.text ↔ 1000 ≤ r.1.year) ∧
      (shape (plainText r.1 r.2) = currentShape ↔ 1000 ≤ r.1.year) ∧
      ((plainText r.1 r.2).length = 19 ↔ 1000 ≤ r.1.year) := by
  have hplain : (plainText r.1 r.2).length = (decimalDigits r.1.year).length + 15 := by
    rw [← String.length_toList, toList_plainText, length_reading hdate hclock, Nat.zero_max]
  have hshape : (shape (plainText r.1 r.2)).toList =
      List.replicate (decimalDigits r.1.year).length 'D' ++ "-DD-DD DD:DD:DD".toList := by
    rw [shape, String.toList_ofList, toList_plainText, map_shapeChar_reading hdate hclock, Nat.zero_max]
  have hfour := length_year_le hyear
  rw [← length_year_iff hyear]
  refine ⟨⟨fun h => ?_, fun h => ?_⟩, ⟨fun h => ?_, fun h => ?_⟩, by rw [hplain]; omega⟩
  · have hlength := congrArg String.length h
    rw [hplain, ← String.length_toList, toList_isoText, length_reading hdate hclock] at hlength
    omega
  · have h₀ : zeroPadded 0 (decimalDigits r.1.year) = decimalDigits r.1.year := zeroPadded_eq_self (Nat.zero_le _)
    have h₄ : zeroPadded 4 (decimalDigits r.1.year) = decimalDigits r.1.year :=
      zeroPadded_eq_self (Nat.le_of_eq h.symm)
    refine String.toList_injective ?_
    rw [toList_plainText, toList_isoText]
    simp only [readingColumns, readingNumbers, ruled, h₀, h₄]
  · have hlength := congrArg (fun s => s.toList.length) h
    simp only [hshape, List.length_append, List.length_replicate] at hlength
    have hrest : "-DD-DD DD:DD:DD".toList.length = 15 := rfl
    have hcurrent : currentShape.toList.length = 19 := rfl
    omega
  · rw [h] at hshape
    exact String.toList_injective hshape

/-- Readings whose years have equally many digits are in the order of their texts. -/
theorem plainText_lt {q r : Date × Clock} {k l : Int} (hq : StandsFor q k) (hr : StandsFor r l) (h : k < l)
    (hyears : (decimalDigits q.1.year).length = (decimalDigits r.1.year).length) :
    plainText q.1 q.2 < plainText r.1 r.2 := by
  obtain ⟨hqd, hqc, -⟩ := standsFor_iff_secondsOf.mp hq
  obtain ⟨hrd, hrc, -⟩ := standsFor_iff_secondsOf.mp hr
  rw [String.lt_iff, toList_plainText, toList_plainText]
  refine ruled_lt_ruled rfl rfl ?_ (readingNumbers_lt hq hr h)
  rw [columnWidths_reading hqd hqc, columnWidths_reading hrd hrc, hyears]

/-! ## Instants -/

/-- The second of universal time in which an instant lies. -/
def wholeSecond (t : Int) : Int := t / Moment.secondMicroseconds

/-- The second that clocks with an offset show at an instant. -/
def zonedSecond (offset : Int → Int) (t : Int) : Int := wholeSecond t + offset (wholeSecond t)

variable {offset : Int → Int} {m : Moment} {t : Int}

theorem zonedText_eq (h : m.Denotes t) :
    zonedText offset m = if inCalendar (wholeSecond t) && inCalendar (zonedSecond offset t) then
      .ok (plainText (clockOf (zonedSecond offset t).toNat).1 (clockOf (zonedSecond offset t).toNat).2)
    else .error .dateOutOfRange := by
  rw [zonedText, ← h.instant_eq]
  rfl

/-- A moment has a text exactly if universal time and what the clocks show lie in the years of the calendar. It is
the text of what they show. -/
theorem zonedText_eq_ok_iff (h : m.Denotes t) {s : String} :
    zonedText offset m = .ok s ↔ InYears (wholeSecond t) ∧ InYears (zonedSecond offset t) ∧
      ∃ r, StandsFor r (zonedSecond offset t) ∧ plainText r.1 r.2 = s := by
  rw [zonedText_eq h]
  simp only [inYears_iff, standsFor_iff, Bool.and_eq_true]
  split
  · rename_i hin
    have hpositive : 0 ≤ zonedSecond offset t := by
      have := hin.2
      simp only [inCalendar, Bool.and_eq_true, decide_eq_true_eq] at this
      exact this.1
    simp [hin, hpositive]
  · rename_i hin
    simp only [reduceCtorEq, false_iff]
    rintro ⟨h₁, h₂, -⟩
    exact hin ⟨h₁, h₂⟩

/-- A moment without a text has a fault of one kind only. -/
theorem zonedText_eq_error_iff (h : m.Denotes t) {fault : Fault} :
    zonedText offset m = .error fault ↔
      ¬(InYears (wholeSecond t) ∧ InYears (zonedSecond offset t)) ∧ fault = .dateOutOfRange := by
  rw [zonedText_eq h, inYears_iff, inYears_iff, ← Bool.and_eq_true]
  split
  · rename_i hin
    simp only [reduceCtorEq, hin, not_true_eq_false, false_and]
  · rename_i hin
    rw [Except.error.injEq]
    exact ⟨fun heq => ⟨hin, heq.symm⟩, fun heq => heq.2.symm⟩

/-- **The text of a moment tells its instant.** Moments that denote one instant have the same text or the same fault.
The reading that a text gives stands for the second of the instant, once the offset of the clocks at that instant is
taken away. There is no text exactly if universal time or what the clocks show lies outside of the years 1 to 9999.
This holds for whatever offsets clocks have, those of London among them. -/
theorem zoned_text_tells_instant (offset : Int → Int) :
    (∀ (year month day hour minute second microsecond : Int) (known : Option Int) (m : Moment),
      Moment.ofNumbers year month day hour minute second microsecond known = .ok m → ∃! t, m.Denotes t) ∧
    (∀ (m n : Moment) (t : Int), m.Denotes t → n.Denotes t → zonedText offset m = zonedText offset n) ∧
    (∀ (m : Moment) (t : Int) (s : String), m.Denotes t → zonedText offset m = .ok s →
      ∃ r l, readReading s = some r ∧ StandsFor r l ∧ l - offset (wholeSecond t) = wholeSecond t) ∧
    ∀ (m : Moment) (t : Int) (fault : Fault), m.Denotes t →
      (zonedText offset m = .error fault ↔
        ¬(InYears (wholeSecond t) ∧ InYears (zonedSecond offset t)) ∧ fault = .dateOutOfRange) := by
  refine ⟨?_, ?_, ?_, ?_⟩
  · intro year month day hour minute second microsecond known m hm
    exact Moment.existsUnique_denotes_of_ofNumbers hm
  · intro m n t hm hn
    rw [zonedText_eq hm, zonedText_eq hn]
  · intro m t s hm hs
    obtain ⟨-, -, r, hr, rfl⟩ := (zonedText_eq_ok_iff hm).mp hs
    refine ⟨r, zonedSecond offset t, readReading_plainText r, hr, ?_⟩
    unfold zonedSecond
    omega
  · intro m t fault hm
    exact zonedText_eq_error_iff hm

/-- An instant in the hour that the clocks of London show twice, by two clocks and with half a second that is
dropped; and an instant before London entered the year 1. -/
theorem zoned_text_tells_instant_shifted :
    let m : Moment := ⟨⟨2024, 10, 27⟩, ⟨0, 30, 0⟩, 500000, none⟩
    let n : Moment := ⟨⟨2024, 10, 26⟩, ⟨19, 30, 0⟩, 500000, some (-18000)⟩
    let early : Moment := ⟨⟨1, 1, 1⟩, ⟨0, 0, 30⟩, 0, none⟩
    (∃! t, m.Denotes t) ∧ londonText m = .ok "2024-10-27 01:30:00" ∧ londonText n = londonText m ∧
      (∃ r l, readReading "2024-10-27 01:30:00" = some r ∧ StandsFor r l ∧ l - 3600 = 63865585800) ∧
      londonText early = .error .dateOutOfRange ∧ ¬(InYears 30 ∧ InYears (-45)) := by
  intro m n early
  have hm : m.Denotes 63865585800500000 :=
    Moment.denotes_instant (by decide) (by decide) (by decide) (by decide +kernel)
  have hn : n.Denotes 63865585800500000 :=
    Moment.denotes_instant (by decide) (by decide) (by decide) (by decide +kernel)
  have hearly : early.Denotes 30000000 :=
    Moment.denotes_instant (by decide) (by decide) (by decide) (by decide +kernel)
  have hbuilt : Moment.ofNumbers 2024 10 27 0 30 0 500000 none = .ok m := rfl
  have htext : londonText m = .ok "2024-10-27 01:30:00" := by decide +kernel
  have hoffset : londonOffset 63865585800 = 3600 := by decide +kernel
  have hfault : londonText early = .error .dateOutOfRange := by decide +kernel
  refine ⟨(zoned_text_tells_instant londonOffset).1 _ _ _ _ _ _ _ _ m hbuilt, htext,
    (zoned_text_tells_instant londonOffset).2.1 n m _ hn hm, ?_, hfault, ?_⟩
  · obtain ⟨r, l, hread, hstands, hl⟩ := (zoned_text_tells_instant londonOffset).2.2.1 m _ _ hm htext
    exact ⟨r, l, hread, hstands, hoffset ▸ hl⟩
  · exact (((zoned_text_tells_instant londonOffset).2.2.2 early _ _ hearly).mp hfault).1

/-! ## Fixed width -/

/-- A later reading has no earlier year. -/
theorem year_le_of_lt {q r : Date × Clock} {k l : Int} (hq : StandsFor q k) (hr : StandsFor r l) (h : k < l) :
    q.1.year ≤ r.1.year := by
  have hlt : readingNumbers q < readingNumbers r := readingNumbers_lt hq hr h
  rw [readingNumbers, readingNumbers, List.cons_lt_cons_iff] at hlt
  rcases hlt with hlt | ⟨heq, -⟩
  · exact Nat.le_of_lt hlt
  · exact Nat.le_of_eq heq

/-- Clocks that keep their offset show different seconds at instants that are a second apart. -/
theorem zonedSecond_lt {u : Int} (hoffset : offset (wholeSecond t) = offset (wholeSecond u))
    (h : t + Moment.secondMicroseconds ≤ u) : zonedSecond offset t < zonedSecond offset u := by
  have hsecond : wholeSecond t < wholeSecond u := by
    unfold wholeSecond
    unfold Moment.secondMicroseconds at *
    omega
  unfold zonedSecond
  omega

/-- **From the year 1000 on the texts of moments have a fixed width and sort by their instants.** Exactly then a text
has four digits for the year and two for all else, with leading zeros, and nineteen characters. While the clocks
keep their offset, an instant that is later by a second or more has the greater text, from the year 1000 on or
if the years have equally many digits. -/
theorem zoned_text_sorts {offset : Int → Int} {m : Moment} {t : Int} {r : Date × Clock} (hm : m.Denotes t)
    (hin : InYears (wholeSecond t)) (hr : StandsFor r (zonedSecond offset t)) (hyear : r.1.year ≤ 9999) :
    ∃ s, zonedText offset m = .ok s ∧ (s = r.1.isoText ++ " " ++ r.2.text ↔ 1000 ≤ r.1.year) ∧
      (shape s = currentShape ↔ 1000 ≤ r.1.year) ∧ (s.length = 19 ↔ 1000 ≤ r.1.year) ∧
      ∀ (n : Moment) (u : Int) (q : Date × Clock) (b : String), n.Denotes u → StandsFor q (zonedSecond offset u) →
        zonedText offset n = .ok b → offset (wholeSecond t) = offset (wholeSecond u) →
        t + Moment.secondMicroseconds ≤ u →
        1000 ≤ r.1.year ∨ (decimalDigits r.1.year).length = (decimalDigits q.1.year).length → s < b := by
  obtain ⟨hdate, hclock, -⟩ := standsFor_iff_secondsOf.mp hr
  obtain ⟨hiso, hshape, hlength⟩ := plainText_form hdate hclock hyear
  refine ⟨_, (zonedText_eq_ok_iff hm).mpr ⟨hin, ⟨r, hr, hyear⟩, r, hr, rfl⟩, hiso, hshape, hlength, ?_⟩
  intro n u q b hn hq hb hoffset htu hyears
  obtain ⟨-, ⟨q', hq', hyear'⟩, q'', hq'', rfl⟩ := (zonedText_eq_ok_iff hn).mp hb
  obtain rfl : q' = q := hq'.unique hq
  obtain rfl : q'' = q' := hq''.unique hq
  have hlt := zonedSecond_lt hoffset htu
  refine plainText_lt hr hq hlt (hyears.elim (fun hfour => ?_) id)
  have hfour' := Nat.le_trans hfour (year_le_of_lt hr hq hlt)
  rw [(length_year_iff hyear).mpr hfour, (length_year_iff hyear').mpr hfour']

/-- The last second of a year and the first of the next. -/
theorem zoned_text_sorts_new_year :
    ∃ s, londonText ⟨⟨2023, 12, 31⟩, ⟨23, 59, 59⟩, 0, none⟩ = .ok s ∧ shape s = "DDDD-DD-DD DD:DD:DD" ∧
      s.length = 19 ∧ s < "2024-01-01 00:00:00" := by
  have hm : Moment.Denotes ⟨⟨2023, 12, 31⟩, ⟨23, 59, 59⟩, 0, none⟩ 63839663999000000 :=
    Moment.denotes_instant (by decide) (by decide) (by decide) (by decide +kernel)
  have hn : Moment.Denotes ⟨⟨2024, 1, 1⟩, ⟨0, 0, 0⟩, 0, none⟩ 63839664000000000 :=
    Moment.denotes_instant (by decide) (by decide) (by decide) (by decide +kernel)
  have hr : StandsFor (⟨2023, 12, 31⟩, ⟨23, 59, 59⟩) (zonedSecond londonOffset 63839663999000000) :=
    standsFor_iff.mpr (by decide +kernel)
  have hq : StandsFor (⟨2024, 1, 1⟩, ⟨0, 0, 0⟩) (zonedSecond londonOffset 63839664000000000) :=
    standsFor_iff.mpr (by decide +kernel)
  have hin : InYears (wholeSecond 63839663999000000) := (inYears_iff _).mpr (by decide +kernel)
  obtain ⟨s, hs, -, hshape, hlength, hsorts⟩ := zoned_text_sorts hm hin hr (by decide)
  exact ⟨s, hs, hshape.mpr (by decide), hlength.mpr (by decide),
    hsorts _ _ _ _ hn hq (by decide +kernel) (by decide +kernel) (by decide) (.inl (by decide))⟩

/-- Before the year 1000 the year has no leading zeros: the text is shorter, and greater than a later one. -/
theorem london_text_unpadded :
    let m : Moment := ⟨⟨999, 12, 31⟩, ⟨23, 59, 59⟩, 0, none⟩
    let n : Moment := ⟨⟨1000, 6, 1⟩, ⟨0, 0, 0⟩, 0, none⟩
    londonText m = .ok "999-12-31 23:58:44" ∧ londonText n = .ok "1000-05-31 23:58:45" ∧
      shape "999-12-31 23:58:44" ≠ "DDDD-DD-DD DD:DD:DD" ∧ "999-12-31 23:58:44".length ≠ 19 ∧
      londonOffset m.instant = londonOffset n.instant ∧ m.instant + 1 ≤ n.instant ∧
      ¬"999-12-31 23:58:44" < "1000-05-31 23:58:45" := by
  decide +kernel

end SqlDraft
