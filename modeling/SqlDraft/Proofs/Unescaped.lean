import SqlDraft.Journal.Formatter
import SqlDraft.Proofs.Literals

/-!
# Texts without escapes

The quoted form of a value shows no escape character as it is, and numbers and dates have none. So a directive
writes an escape character only if its value is a text that holds one, or if it writes the number of one as a
character.

* `Unescaped`: the texts without an escape character.
* `unescaped_quotedChars`: the quoted form of any text.
* `Value.unescaped_of_quoted`: the quoted form of any value.
* `Value.Unescaped`, `Value.Unescaped.shown`: the values whose text has none.
* `Conversion.unescaped_of_write`: what a directive writes of them.
-/

namespace SqlDraft

/-- A text without an escape character. -/
def Unescaped (cs : List Char) : Prop := escapeMark ∉ cs

instance (cs : List Char) : Decidable (Unescaped cs) := inferInstanceAs (Decidable (escapeMark ∉ cs))

namespace Unescaped

variable {cs ds : List Char}

@[simp] theorem nil : Unescaped [] := nofun

@[simp] theorem append_iff : Unescaped (cs ++ ds) ↔ Unescaped cs ∧ Unescaped ds := by
  simp only [Unescaped, List.mem_append, not_or]

theorem append (hc : Unescaped cs) (hd : Unescaped ds) : Unescaped (cs ++ ds) := append_iff.mpr ⟨hc, hd⟩

theorem cons_iff {c : Char} : Unescaped (c :: cs) ↔ c ≠ escapeMark ∧ Unescaped cs := by
  simp only [Unescaped, List.mem_cons, not_or, ne_eq, eq_comm]

theorem cons {c : Char} (hc : c ≠ escapeMark) (hcs : Unescaped cs) : Unescaped (c :: cs) :=
  cons_iff.mpr ⟨hc, hcs⟩

theorem singleton {c : Char} (hc : c ≠ escapeMark) : Unescaped [c] := cons hc nil

theorem subset (h : ds ⊆ cs) (hc : Unescaped cs) : Unescaped ds := fun hd => hc (h hd)

theorem flatMap {f : Char → List Char} (h : ∀ c ∈ cs, Unescaped (f c)) : Unescaped (cs.flatMap f) := by
  intro hmem
  obtain ⟨c, hc, hf⟩ := List.mem_flatMap.mp hmem
  exact h c hc hf

theorem replicate {c : Char} (hc : c ≠ escapeMark) (n : Nat) : Unescaped (List.replicate n c) :=
  fun h => hc (List.eq_of_mem_replicate h).symm

/-- Texts with a separator between them. -/
theorem intercalate {sep : String} {ss : List String} (hsep : Unescaped sep.toList)
    (hss : ∀ s ∈ ss, Unescaped s.toList) : Unescaped (sep.intercalate ss).toList := by
  rw [String.toList_intercalate]
  induction ss with
  | nil => exact nil
  | cons s ss ih =>
    obtain ⟨hs, htail⟩ := List.forall_mem_cons.mp hss
    cases ss with
    | nil => simpa using hs
    | cons t ss =>
      rw [List.map_cons, List.map_cons, List.intercalate_cons_cons]
      exact (hs.append hsep).append (ih htail)

end Unescaped

theorem IsNumeral.unescaped {cs : List Char} (h : IsNumeral cs) : Unescaped cs := h.not_mem (by decide)

/-! ## Quoted forms -/

/-- The digits of a number in a base up to sixteen. -/
theorem isNumeral_toDigits {b : Nat} (hb : 1 < b) (hle : b ≤ 16) (n : Nat) : IsNumeral (Nat.toDigits b n) := by
  have hdigit : ∀ d < 16, isNumeralChar (Nat.digitChar d) = true := by decide
  induction n using Nat.strongRecOn with
  | ind n ih =>
    rcases Nat.lt_or_ge n b with hn | hn
    · rw [Nat.toDigits_of_lt_base hn]
      exact .cons (hdigit n (by omega)) (List.forall_mem_nil _)
    · rw [Nat.toDigits_of_base_le hb hn]
      have hquotient : n / b < n := Nat.div_lt_self (by omega) hb
      have hremainder : n % b < b := Nat.mod_lt n (by omega)
      exact (ih _ hquotient).append (.cons (hdigit _ (by omega)) (List.forall_mem_nil _))

theorem isNumeral_hexPadded (width n : Nat) : IsNumeral (hexPadded width n) :=
  (IsNumeral.zeros _).append (isNumeral_toDigits (by decide) (Nat.le_refl _) n)

theorem unescaped_escapeCode (n : Nat) : Unescaped (escapeCode n) := by
  unfold escapeCode
  split
  · exact .cons (by decide) (.cons (by decide) (isNumeral_hexPadded 2 n).unescaped)
  · split
    · exact .cons (by decide) (.cons (by decide) (isNumeral_hexPadded 4 n).unescaped)
    · exact .cons (by decide) (.cons (by decide) (isNumeral_hexPadded 8 n).unescaped)

/-- An escape character between quotes is written by its number. -/
theorem unescaped_escapeChar {shows : Char → Bool} {q : Char} (hshows : shows escapeMark = false)
    (hq : q ≠ escapeMark) (c : Char) : Unescaped (escapeChar shows q c) := by
  by_cases hc : c = escapeMark
  · subst hc
    have hself : ¬(escapeMark = q ∨ escapeMark = '\\') := not_or.mpr ⟨hq.symm, by decide⟩
    rw [escapeChar, if_neg hself, if_neg (by decide), if_neg (by decide), if_neg (by decide), hshows,
      if_neg Bool.false_ne_true]
    exact unescaped_escapeCode _
  · unfold escapeChar
    repeat' split
    all_goals first
      | exact .cons (by decide) (.singleton hc)
      | exact .singleton hc
      | exact unescaped_escapeCode c.toNat
      | decide

theorem unescaped_quotedChars {shows : Char → Bool} (hshows : shows escapeMark = false) (cs : List Char) :
    Unescaped (quotedChars shows cs) := by
  have hq : quoteMark cs ≠ escapeMark := by
    rcases quoteMark_eq cs with h | h <;> rw [h] <;> decide
  exact (Unescaped.cons hq (.flatMap fun c _ => unescaped_escapeChar hshows hq c)).append (.singleton hq)

theorem unescaped_quotedText (s : String) : Unescaped (quotedText s).toList := by
  rw [quotedText, String.toList_ofList]
  exact unescaped_quotedChars (by decide +kernel) s.toList

theorem unescaped_quotedBytes (bs : List UInt8) : Unescaped (quotedBytes bs).toList := by
  rw [quotedBytes, String.toList_ofList]
  exact .cons (by decide) (unescaped_quotedChars (by decide) (byteChars bs))

/-! ## Dates and times -/

theorem unescaped_integerText (i : Int) : Unescaped (integerText i).toList := by
  rw [integerText, String.toList_ofList]
  exact (isNumeral_integerChars i).unescaped

theorem unescaped_paddedNat (width n : Nat) : Unescaped (paddedNat width n).toList := by
  rw [paddedNat, String.toList_ofList]
  exact ((IsNumeral.zeros _).append (isNumeral_decimalDigits n)).unescaped

theorem unescaped_commaNumbers (ns : List Nat) : Unescaped (commaNumbers ns).toList := by
  refine .intercalate (by decide) fun s hs => ?_
  obtain ⟨n, -, rfl⟩ := List.mem_map.mp hs
  rw [Nat.toList_repr]
  exact (isNumeral_decimalDigits n).unescaped

theorem unescaped_clockText (c : Clock) : Unescaped c.text.toList := by
  simp only [Clock.text, String.toList_append, Unescaped.append_iff, unescaped_paddedNat, true_and, and_true]
  decide

theorem unescaped_withinYearText (d : Date) (c : Clock) : Unescaped (withinYearText d c).toList := by
  simp only [withinYearText, String.toList_append, Unescaped.append_iff, unescaped_paddedNat,
    unescaped_clockText, and_true]
  decide

theorem unescaped_of_unixText {t : Int} {s : String} (h : unixText t = .ok s) : Unescaped s.toList := by
  unfold unixText at h
  dsimp only at h
  split at h
  · cases h
    rw [String.toList_append]
    exact (unescaped_integerText _).append (unescaped_withinYearText _ _)
  · cases h

theorem unescaped_isoDate (d : Date) : Unescaped d.isoText.toList := by
  simp only [Date.isoText, String.toList_append, Unescaped.append_iff, unescaped_paddedNat, true_and, and_true]
  decide

theorem unescaped_offsetText (offset : Int) : Unescaped (offsetText offset).toList := by
  simp only [offsetText, String.toList_append, Unescaped.append_iff, unescaped_paddedNat, and_true]
  refine ⟨⟨?_, by decide⟩, ?_⟩
  · split <;> decide
  · split
    · decide
    · rw [String.toList_append]
      exact .append (by decide) (unescaped_paddedNat _ _)

theorem unescaped_isoMoment (m : Moment) : Unescaped m.isoText.toList := by
  simp only [Moment.isoText, String.toList_append, Unescaped.append_iff, unescaped_isoDate,
    unescaped_clockText, true_and, and_true]
  refine ⟨⟨by decide, ?_⟩, ?_⟩
  · split
    · decide
    · rw [String.toList_append]
      exact .append (by decide) (unescaped_paddedNat _ _)
  · split
    · decide
    · exact unescaped_offsetText _

theorem unescaped_quotedSpan (span : Int) : Unescaped (quotedSpan span).toList := by
  have hpart (name : String) (n : Int) (hname : Unescaped name.toList) :
      ∀ s ∈ (if n = 0 then [] else [name ++ integerText n]), Unescaped s.toList := by
    split
    · exact nofun
    · intro s hs
      rw [List.mem_singleton.mp hs, String.toList_append]
      exact hname.append (unescaped_integerText n)
  have hspan (parts : List String) (hparts : ∀ s ∈ parts, Unescaped s.toList) :
      Unescaped ("datetime.timedelta(" ++ (if parts.isEmpty then "0" else ", ".intercalate parts) ++ ")").toList := by
    simp only [String.toList_append, Unescaped.append_iff]
    refine ⟨⟨by decide, ?_⟩, by decide⟩
    split
    · decide
    · exact .intercalate (by decide) hparts
  refine hspan _ fun s hs => ?_
  exact (List.mem_append.mp hs).elim (hpart _ _ (by decide) s) (hpart _ _ (by decide) s)

theorem unescaped_quotedDate (d : Date) : Unescaped (quotedDate d).toList := by
  simp only [quotedDate, String.toList_append, Unescaped.append_iff, unescaped_commaNumbers, and_true]
  decide

theorem unescaped_quotedMoment (m : Moment) : Unescaped (quotedMoment m).toList := by
  unfold quotedMoment
  simp only [String.toList_append, Unescaped.append_iff, unescaped_commaNumbers, and_true]
  refine ⟨⟨by decide, ?_⟩, by decide⟩
  split
  · decide
  · rw [String.toList_append, quotedOffset]
    refine .append (by decide) ?_
    split
    · decide
    · simp only [String.toList_append, Unescaped.append_iff, unescaped_quotedSpan, and_true]
      decide

/-! ## Values -/

namespace Value

theorem unescaped_of_signedText {i : Int} {s : String} (h : signedText i = .ok s) : SqlDraft.Unescaped s.toList := by
  obtain ⟨-, rfl⟩ := (signedText_eq_ok_iff i s).mp h
  exact unescaped_integerText i

mutual

/-- The quoted form of a value shows no escape character. -/
theorem unescaped_of_quoted : ∀ {v : Value} {s : String}, v.quoted = .ok s → SqlDraft.Unescaped s.toList
  | null, _, h => by cases h; decide
  | bool b, _, h => by cases h; cases b <;> decide
  | int _, _, h => unescaped_of_signedText h
  | float x, _, h => by cases h; exact x.isNumeral_text.unescaped
  | decimal x, _, h => by
    cases h
    simp only [String.toList_append, Unescaped.append_iff, x.isNumeral_text.unescaped, and_true]
    decide
  | text s, _, h => by cases h; exact unescaped_quotedText s
  | list xs, _, h => by
    obtain ⟨ss, hss, rfl⟩ := map_eq_ok_iff.mp h
    have hitems : SqlDraft.Unescaped (", ".intercalate ss).toList :=
      .intercalate (by decide) (unescaped_of_quotedItems hss)
    simp only [String.toList_append, Unescaped.append_iff, hitems, and_true]
    decide
  | tuple xs, _, h => by
    obtain ⟨ss, hss, rfl⟩ := map_eq_ok_iff.mp h
    have hall := unescaped_of_quotedItems hss
    split
    · have hs := hall _ List.mem_cons_self
      simp only [String.toList_append, Unescaped.append_iff, hs, and_true]
      decide
    · have hitems : SqlDraft.Unescaped (", ".intercalate ss).toList := .intercalate (by decide) hall
      simp only [String.toList_append, Unescaped.append_iff, hitems, and_true]
      decide
  | dict es, _, h => by
    obtain ⟨ss, hss, rfl⟩ := map_eq_ok_iff.mp h
    have hitems : SqlDraft.Unescaped (", ".intercalate ss).toList :=
      .intercalate (by decide) (unescaped_of_quotedEntries hss)
    simp only [String.toList_append, Unescaped.append_iff, hitems, and_true]
    decide
  | bytes bs, _, h => by cases h; exact unescaped_quotedBytes bs
  | date d, _, h => by cases h; exact unescaped_quotedDate d
  | moment m, _, h => by cases h; exact unescaped_quotedMoment m

theorem unescaped_of_quotedItems : ∀ {vs : List Value} {ss : List String}, quotedItems vs = .ok ss →
    ∀ s ∈ ss, SqlDraft.Unescaped s.toList
  | [], _, h => by cases h; exact nofun
  | v :: vs, _, h => by
    obtain ⟨s, hs, h⟩ := bind_eq_ok_iff.mp h
    obtain ⟨ss, hss, h⟩ := bind_eq_ok_iff.mp h
    cases h
    exact List.forall_mem_cons.mpr ⟨unescaped_of_quoted hs, unescaped_of_quotedItems hss⟩

theorem unescaped_of_quotedEntries : ∀ {es : List (Value × Value)} {ss : List String},
    quotedEntries es = .ok ss → ∀ s ∈ ss, SqlDraft.Unescaped s.toList
  | [], _, h => by cases h; exact nofun
  | (k, v) :: es, _, h => by
    obtain ⟨s, hs, h⟩ := bind_eq_ok_iff.mp h
    obtain ⟨t, ht, h⟩ := bind_eq_ok_iff.mp h
    obtain ⟨ss, hss, h⟩ := bind_eq_ok_iff.mp h
    cases h
    have hentry : SqlDraft.Unescaped (s ++ ": " ++ t).toList := by
      simp only [String.toList_append, Unescaped.append_iff, unescaped_of_quoted hs, unescaped_of_quoted ht,
        true_and, and_true]
      decide
    exact List.forall_mem_cons.mpr ⟨hentry, unescaped_of_quotedEntries hss⟩

end

/-- A value that is no text with an escape character. -/
def Unescaped (v : Value) : Prop := ∀ s, v = text s → SqlDraft.Unescaped s.toList

instance (v : Value) : Decidable v.Unescaped :=
  match v with
  | text s => decidable_of_iff (SqlDraft.Unescaped s.toList) ⟨fun h _ heq => text.inj heq ▸ h, fun h => h s rfl⟩
  | null | bool _ | int _ | float _ | decimal _ | list _ | tuple _ | dict _ | bytes _ | date _
  | moment _ => isTrue nofun

namespace Unescaped

variable {v : Value}

theorem of_text {s : String} (h : SqlDraft.Unescaped s.toList) : (text s).Unescaped := by
  rintro _ ⟨⟩
  exact h

theorem shown (hv : v.Unescaped) {s : String} (h : v.shown = .ok s) : SqlDraft.Unescaped s.toList := by
  cases v with
  | text t =>
    cases h
    exact hv _ rfl
  | decimal x => cases h; exact x.isNumeral_text.unescaped
  | date d => cases h; exact unescaped_isoDate d
  | moment m =>
    obtain rfl : m.isoText = s := Except.ok.inj h
    exact unescaped_isoMoment m
  | _ => exact unescaped_of_quoted h

end Unescaped

end Value

/-! ## Real numbers -/

section Real

variable {whole part : List Char}

theorem isNumeral_pointed (keepsPoint : Bool) (hwhole : IsNumeral whole) (hpart : IsNumeral part) :
    IsNumeral (pointed keepsPoint whole part) := by
  unfold pointed
  split
  · exact hwhole
  · exact hwhole.append (.cons (by decide) hpart)

theorem isNumeral_fixedChars (keepsPoint : Bool) (places m : Nat) (q : Int) :
    IsNumeral (fixedChars keepsPoint places m q) := by
  have hdigits (n : Nat) : IsNumeral (zeroPadded (places + 1) (decimalDigits n)) :=
    (IsNumeral.zeros _).append (isNumeral_decimalDigits n)
  exact isNumeral_pointed keepsPoint ((hdigits _).subset (List.take_subset ..))
    ((hdigits _).subset (List.drop_subset ..))

theorem isNumeral_leadingFigures (count m : Nat) (q : Int) : IsNumeral (leadingFigures count m q).1 := by
  unfold leadingFigures
  split
  · exact .zeros count
  · dsimp only
    split
    · exact (isNumeral_decimalDigits _).subset (List.take_subset ..)
    · exact isNumeral_decimalDigits _

theorem isNumeral_exponentSuffix (point : Int) : IsNumeral (exponentSuffix point) := by
  have hdigits : IsNumeral (zeroPadded 2 (decimalDigits (point - 1).natAbs)) :=
    (IsNumeral.zeros _).append (isNumeral_decimalDigits _)
  unfold exponentSuffix exponentChars
  refine .cons (by decide) ?_
  split <;> exact .cons (by decide) hdigits

theorem isNumeral_exponentialChars (keepsPoint : Bool) (places m : Nat) (q : Int) :
    IsNumeral (exponentialChars keepsPoint places m q) := by
  have hfigures := isNumeral_leadingFigures (places + 1) m q
  exact (isNumeral_pointed keepsPoint (hfigures.subset (List.take_subset ..))
    (hfigures.subset (List.drop_subset ..))).append (isNumeral_exponentSuffix _)

theorem isNumeral_dropTrailingZeros {ds : List Char} (h : IsNumeral ds) : IsNumeral (dropTrailingZeros ds) :=
  h.subset fun _ hc => List.mem_reverse.mp (List.dropWhile_subset _ (List.mem_reverse.mp hc))

theorem isNumeral_generalChars (keepsPoint : Bool) (count m : Nat) (q : Int) :
    IsNumeral (generalChars keepsPoint count m q) := by
  have hfigures := isNumeral_leadingFigures (max 1 count) m q
  have htrim {ds : List Char} (h : IsNumeral ds) :
      IsNumeral ((if keepsPoint then id else dropTrailingZeros) ds) := by
    cases keepsPoint with
    | true => exact h
    | false => exact isNumeral_dropTrailingZeros h
  unfold generalChars
  dsimp only
  split
  · obtain ⟨hwhole, hpart⟩ := isNumeral_placePoint hfigures (leadingFigures (max 1 count) m q).2
    exact isNumeral_pointed keepsPoint (isNumeral_orZero hwhole) (htrim hpart)
  · exact (isNumeral_pointed keepsPoint (hfigures.subset (List.take_subset ..))
      (htrim (hfigures.subset (List.drop_subset ..)))).append (isNumeral_exponentSuffix _)

theorem isNumeral_realChars (style : RealStyle) (keepsPoint : Bool) (digits : Nat) (x : Binary64) :
    IsNumeral (x.realChars style keepsPoint digits) := by
  unfold Binary64.realChars
  split
  · decide
  · exact (Binary64.isNumeral_signChars _).append (by decide)
  · refine (Binary64.isNumeral_signChars _).append ?_
    cases style with
    | fixed => exact isNumeral_fixedChars keepsPoint digits _ _
    | exponential => exact isNumeral_exponentialChars keepsPoint digits _ _
    | general => exact isNumeral_generalChars keepsPoint digits _ _

end Real

/-! ## Characters -/

theorem toUpper_ne_escapeMark {c : Char} (hc : c ≠ escapeMark) : c.toUpper ≠ escapeMark := by
  have hshift : ('A'.val - 'a'.val).toNat = 4294967264 := rfl
  have hmark : escapeMark.val.toNat = 27 := rfl
  unfold Char.toUpper
  split
  · rename_i h
    intro heq
    have hlow : 97 ≤ c.val.toNat := h.1
    have hhigh : c.val.toNat ≤ 122 := h.2
    have hval := congrArg Char.val heq
    dsimp only at hval
    have hnumber := congrArg UInt32.toNat hval
    rw [UInt32.toNat_add, hshift, hmark] at hnumber
    omega
  · exact hc

theorem Unescaped.map_toUpper {cs : List Char} (h : Unescaped cs) : Unescaped (cs.map Char.toUpper) := by
  intro hmem
  obtain ⟨c, hc, heq⟩ := List.mem_map.mp hmem
  exact toUpper_ne_escapeMark (fun hmark => h (hmark ▸ hc)) heq

/-- The number of the escape character is no other's. -/
theorem ofNat_ne_escapeMark {n : Nat} (hn : n ≠ escapeMark.toNat) : Char.ofNat n ≠ escapeMark := by
  by_cases hvalid : n.isValidChar
  · rw [Char.ofNat, dif_pos hvalid]
    exact fun heq => hn (congrArg Char.toNat heq)
  · rw [Char.ofNat, dif_neg hvalid]
    decide

/-- A value that is one character is an escape character only as a text, or by its number. -/
theorem ne_escapeMark_of_characterValue {v : Value} (hv : v.Unescaped)
    (hnumber : v ≠ .int escapeMark.toNat) {c : Char} (h : characterValue v = .ok c) : c ≠ escapeMark := by
  cases v with
  | text s =>
    have hs := hv s rfl
    rw [characterValue] at h
    split at h
    · rename_i heq
      cases h
      rw [heq] at hs
      exact fun hc => hs (List.mem_singleton.mpr hc.symm)
    · cases h
  | bool b => cases h; cases b <;> decide
  | int i =>
    rw [characterValue] at h
    split at h
    · rename_i hrange
      cases h
      refine ofNat_ne_escapeMark fun hi => hnumber ?_
      rw [← hi, Int.toNat_of_nonneg hrange.1]
    · cases h
  | _ => cases h

/-! ## Directives -/

/-- A text with its sign and its mark, none of which has an escape character. -/
structure FieldText.Unescaped (t : FieldText) : Prop where
  sign : SqlDraft.Unescaped t.sign
  mark : SqlDraft.Unescaped t.mark
  body : SqlDraft.Unescaped t.body

namespace FieldText.Unescaped

theorem plain {cs : List Char} (h : SqlDraft.Unescaped cs) : (FieldText.plain cs).Unescaped := ⟨.nil, .nil, h⟩

/-- A field is filled up with blanks or zeros. -/
theorem laid {t : FieldText} (h : t.Unescaped) (left : Bool) (width : Nat) :
    SqlDraft.Unescaped (t.laid left width) := by
  have hblanks (n : Nat) : SqlDraft.Unescaped (List.replicate n ' ') := .replicate (by decide) n
  have hzeros (n : Nat) : SqlDraft.Unescaped (List.replicate n '0') := .replicate (by decide) n
  have hchars : SqlDraft.Unescaped t.chars := (h.sign.append h.mark).append h.body
  unfold FieldText.laid
  dsimp only
  split
  · exact hchars.append (hblanks _)
  · split
    · exact ((h.sign.append h.mark).append (hzeros _)).append h.body
    · exact (hblanks _).append hchars

end FieldText.Unescaped

theorem unescaped_signFor (flags : Flags) (negative : Bool) : Unescaped (signFor flags negative) := by
  unfold signFor
  repeat' split
  all_goals decide

theorem unescaped_textField (frame : Frame) {cs : List Char} (h : Unescaped cs) :
    (textField frame cs).Unescaped := by
  refine .plain ?_
  split
  · exact h.subset (List.take_subset ..)
  · exact h

theorem unescaped_integerField (frame : Frame) (negative : Bool) {mark ds : List Char} (hmark : Unescaped mark)
    (hds : Unescaped ds) : (integerField frame negative mark ds).Unescaped :=
  ⟨unescaped_signFor _ _, hmark, (Unescaped.replicate (by decide) _).append hds⟩

theorem unescaped_digits (b : Base) (n : Nat) : Unescaped (b.digits n) := by
  cases b with
  | octal => exact (isNumeral_toDigits (by decide) (by decide) n).unescaped
  | hexadecimal capital =>
    have hdigits := (isNumeral_toDigits (b := 16) (by decide) (Nat.le_refl _) n).unescaped
    cases capital with
    | false => exact hdigits
    | true => exact hdigits.map_toUpper

theorem unescaped_mark (b : Base) : Unescaped b.mark := by
  rcases b with _ | capital
  · decide
  · cases capital <;> decide

theorem unescaped_realField (frame : Frame) (style : RealStyle) (capital : Bool) (x : Binary64) :
    (realField frame style capital x).Unescaped := by
  have hcapital {cs : List Char} (h : Unescaped cs) :
      Unescaped (if capital then cs.map Char.toUpper else cs) := by
    split
    · exact h.map_toUpper
    · exact h
  have hbody {cs : List Char} (h : Unescaped cs) (negative : Bool) :
      Unescaped (if negative then cs.tail else cs) := by
    split
    · exact h.subset (List.tail_sublist cs).subset
    · exact h
  exact ⟨unescaped_signFor _ _, .nil, hbody (hcapital (isNumeral_realChars style _ _ x).unescaped) _⟩

theorem unescaped_escapeBeyondAscii {cs : List Char} (h : Unescaped cs) : Unescaped (escapeBeyondAscii cs) := by
  refine .flatMap fun c hc => ?_
  split
  · exact .singleton fun hmark => h (hmark ▸ hc)
  · exact unescaped_escapeCode _

namespace Conversion

variable {c : Conversion} {letter : Char} {frame : Frame} {v : Value}

theorem unescaped_of_field (hv : v.Unescaped) (hnumber : c = character → v ≠ .int escapeMark.toNat)
    {t : FieldText} (h : c.field letter frame v = .ok t) : t.Unescaped := by
  cases c with
  | shown =>
    obtain ⟨s, hs, h⟩ := bind_eq_ok_iff.mp h
    cases h
    exact unescaped_textField frame (hv.shown hs)
  | quoted =>
    obtain ⟨s, hs, h⟩ := bind_eq_ok_iff.mp h
    cases h
    exact unescaped_textField frame (Value.unescaped_of_quoted hs)
  | escaped =>
    obtain ⟨s, hs, h⟩ := bind_eq_ok_iff.mp h
    cases h
    exact unescaped_textField frame (unescaped_escapeBeyondAscii (Value.unescaped_of_quoted hs))
  | decimal =>
    obtain ⟨i, -, h⟩ := bind_eq_ok_iff.mp h
    obtain ⟨-, -, h⟩ := bind_eq_ok_iff.mp h
    split at h
    · cases h
      exact unescaped_integerField frame _ .nil (isNumeral_decimalDigits _).unescaped
    · cases h
  | based b =>
    obtain ⟨i, -, h⟩ := bind_eq_ok_iff.mp h
    obtain ⟨-, -, h⟩ := bind_eq_ok_iff.mp h
    cases h
    refine unescaped_integerField frame _ ?_ (unescaped_digits b _)
    split
    · exact unescaped_mark b
    · exact .nil
  | real style capital =>
    obtain ⟨x, -, h⟩ := bind_eq_ok_iff.mp h
    cases h
    exact unescaped_realField frame style capital x
  | character =>
    obtain ⟨ch, hch, h⟩ := bind_eq_ok_iff.mp h
    cases h
    exact .plain (.singleton (ne_escapeMark_of_characterValue hv (hnumber rfl) hch))

/-- What a directive writes of a value has no escape character, unless the value is a text that holds one or
its number is written as a character. -/
theorem unescaped_of_write (hv : v.Unescaped) (hnumber : c = character → v ≠ .int escapeMark.toNat)
    {cs : List Char} (h : c.write letter frame v = .ok cs) : Unescaped cs := by
  obtain ⟨t, ht, rfl⟩ := map_eq_ok_iff.mp h
  exact (unescaped_of_field hv hnumber ht).laid _ _

end Conversion

end SqlDraft
