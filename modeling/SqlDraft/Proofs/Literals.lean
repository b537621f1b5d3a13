import SqlDraft.Proofs.Cutting
import SqlDraft.Proofs.Writable

/-!
# Literals are sealed

A literal closes the quotes it opens, and has no comma outside of them, whatever the value.

* `isSealed_enquote`: a text in quotes, with its own quotes doubled.
* `IsNumeral`, `isNumeral_decimalDigits` to `Binary64.isNumeral_text`: the characters of numbers.
* `Value.isTextual`, `quote_of_textual`, `isNumeral_of_quote`: which values have a string literal.
* `isSealed_of_quote`: every literal is sealed.
-/

namespace SqlDraft

/-! ## Texts -/

/-- A doubled quote closes the quotes and opens them again. -/
theorem isSealed_doubleQuotes (cs : List Char) :
    isSealed true (doubleQuotes cs ++ [singleQuote]) = true := by
  induction cs with
  | nil => rfl
  | cons c cs ih =>
    by_cases hc : c = singleQuote
    · subst hc
      rw [doubleQuotes_cons_quote]
      exact ih
    · have hinside : insideAfter true c = true := by simpa [insideAfter] using hc
      rw [doubleQuotes_cons_of_ne hc, List.cons_append, isSealed, hinside, ih]
      rfl

theorem isSealed_enquote (s : String) : isSealed false (enquote s).toList = true := by
  rw [enquote, String.toList_ofList, List.cons_append]
  exact isSealed_doubleQuotes s.toList

/-! ## Numbers -/

theorem IsBare.append {cs ds : List Char} (hc : IsBare cs) (hd : IsBare ds) : IsBare (cs ++ ds) :=
  fun c h => (List.mem_append.mp h).elim (hc c) (hd c)

/-- The characters of numbers and keywords: ASCII letters and digits, signs and points. -/
def isNumeralChar (c : Char) : Bool := c.isAlphanum || c == '+' || c == '-' || c == '.'

/-- A text of such characters. -/
def IsNumeral (cs : List Char) : Prop := ∀ c ∈ cs, isNumeralChar c = true

instance (cs : List Char) : Decidable (IsNumeral cs) :=
  List.decidableBAll (fun c => isNumeralChar c = true) cs

namespace IsNumeral

variable {cs ds : List Char}

theorem not_mem (h : IsNumeral cs) {c : Char} (hc : isNumeralChar c = false) : c ∉ cs := by
  intro hmem
  rw [h c hmem] at hc
  cases hc

theorem isBare (h : IsNumeral cs) : IsBare cs := by
  intro c hc
  refine ⟨?_, ?_⟩ <;> rintro rfl
  · exact h.not_mem (by decide) hc
  · exact h.not_mem (by decide) hc

theorem append (hc : IsNumeral cs) (hd : IsNumeral ds) : IsNumeral (cs ++ ds) :=
  fun c h => (List.mem_append.mp h).elim (hc c) (hd c)

theorem cons {c : Char} (hc : isNumeralChar c = true) (hcs : IsNumeral cs) : IsNumeral (c :: cs) :=
  List.forall_mem_cons.mpr ⟨hc, hcs⟩

theorem subset (h : ds ⊆ cs) (hc : IsNumeral cs) : IsNumeral ds := fun c hd => hc c (h hd)

theorem zeros (n : Nat) : IsNumeral (List.replicate n '0') := by
  intro c hc
  rw [List.eq_of_mem_replicate hc]
  decide

end IsNumeral

theorem isNumeral_decimalDigits (n : Nat) : IsNumeral (decimalDigits n) := by
  intro c hc
  have hdigit : c.isDigit = true := Nat.isDigit_of_mem_toDigits (by decide) (by decide) hc
  simp [isNumeralChar, Char.isAlphanum, hdigit]

theorem isNumeral_integerChars (i : Int) : IsNumeral (integerChars i) := by
  cases i with
  | ofNat n => exact isNumeral_decimalDigits n
  | negSucc n => exact .cons (by decide) (isNumeral_decimalDigits (n + 1))

variable {ds : List Char}

theorem isNumeral_placePoint (h : IsNumeral ds) (point : Int) :
    IsNumeral (placePoint ds point).1 ∧ IsNumeral (placePoint ds point).2 := by
  unfold placePoint
  dsimp only
  split
  · exact ⟨nofun, (IsNumeral.zeros _).append h⟩
  · exact ⟨(h.subset (List.take_subset ..)).append (.zeros _), h.subset (List.drop_subset ..)⟩

theorem isNumeral_orZero (h : IsNumeral ds) : IsNumeral (orZero ds) := by
  cases ds with
  | nil => exact .cons (by decide) nofun
  | cons => exact h

theorem isNumeral_positional (h : IsNumeral ds) (point : Int) : IsNumeral (positional ds point) := by
  obtain ⟨hwhole, hpart⟩ := isNumeral_placePoint h point
  unfold positional
  split
  · rename_i hp
    rw [hp] at hwhole
    exact isNumeral_orZero hwhole
  · rename_i hp
    rw [hp] at hwhole hpart
    exact (isNumeral_orZero hwhole).append (.cons (by decide) hpart)

theorem isNumeral_scientific {mark : Char} (hmark : isNumeralChar mark = true) (width : Nat)
    (h : IsNumeral ds) (point : Int) : IsNumeral (scientific mark width ds point) := by
  have hdigits : IsNumeral (zeroPadded width (decimalDigits (point - 1).natAbs)) :=
    (IsNumeral.zeros _).append (isNumeral_decimalDigits _)
  have hsign : IsNumeral (exponentChars width (point - 1)) := by
    unfold exponentChars
    split <;> exact .cons (by decide) hdigits
  exact (isNumeral_positional h 1).append (.cons hmark hsign)

namespace DecimalNumber

theorem isNumeral_signChars (negative : Bool) : IsNumeral (signChars negative) := by
  cases negative with
  | true => exact .cons (by decide) nofun
  | false => exact nofun

theorem isNumeral_magnitudeText (coefficient : Nat) (exponent : Int) :
    IsNumeral (magnitudeText coefficient exponent) := by
  have hdigits := isNumeral_decimalDigits coefficient
  unfold magnitudeText
  dsimp only
  split
  · exact isNumeral_positional hdigits _
  · split
    · exact isNumeral_positional hdigits _
    · exact isNumeral_scientific (by decide) 1 hdigits _

theorem isNumeral_text (x : DecimalNumber) : IsNumeral x.text.toList := by
  unfold text
  rw [String.toList_ofList]
  cases x with
  | nan negative signaling payload =>
    refine (((isNumeral_signChars negative).append ?_).append ?_).append ?_
    · cases signaling with
      | true => exact .cons (by decide) nofun
      | false => exact nofun
    · decide
    · split
      · exact nofun
      · exact isNumeral_decimalDigits payload
  | infinite negative =>
    exact (isNumeral_signChars negative).append (by decide)
  | finite negative coefficient exponent =>
    exact (isNumeral_signChars negative).append (isNumeral_magnitudeText coefficient exponent)

end DecimalNumber

namespace Binary64

theorem isNumeral_signChars (negative : Bool) : IsNumeral (signChars negative) :=
  DecimalNumber.isNumeral_signChars negative

theorem isNumeral_shortestDigits (m : Nat) (q : Int) : IsNumeral (shortestDigits m q).1 := by
  unfold shortestDigits
  split
  · exact .cons (by decide) nofun
  · have hdrop (ds : List Char) : dropTrailingZeros ds ⊆ ds := fun c hc =>
      List.mem_reverse.mp (List.dropWhile_subset _ (List.mem_reverse.mp hc))
    exact (isNumeral_decimalDigits _).subset (hdrop _)

theorem isNumeral_withPoint (h : IsNumeral ds) (point : Int) : IsNumeral (withPoint ds point) := by
  obtain ⟨hwhole, hpart⟩ := isNumeral_placePoint h point
  unfold withPoint
  split
  · rename_i hp
    rw [hp] at hwhole
    exact (isNumeral_orZero hwhole).append (.cons (by decide) (.cons (by decide) nofun))
  · rename_i hp
    rw [hp] at hwhole hpart
    exact (isNumeral_orZero hwhole).append (.cons (by decide) hpart)

theorem isNumeral_magnitudeText (m : Nat) (q : Int) : IsNumeral (magnitudeText m q) := by
  have hdigits := isNumeral_shortestDigits m q
  unfold magnitudeText
  dsimp only
  split
  · exact isNumeral_withPoint hdigits _
  · exact isNumeral_scientific (by decide) 2 hdigits _

theorem isNumeral_text (x : Binary64) : IsNumeral x.text.toList := by
  rw [text, String.toList_ofList]
  split
  · decide
  · rename_i negative _
    exact (isNumeral_signChars negative).append (by decide)
  · rename_i negative m q _
    exact (isNumeral_signChars negative).append (isNumeral_magnitudeText m q)

end Binary64

/-! ## Literals -/

/-- Whether the literal of a value is a string literal. -/
def Value.isTextual : Value → Bool
  | .null | .bool _ | .int _ | .float _ | .decimal _ => false
  | _ => true

theorem quote_of_textual {v : Value} (hv : v.isTextual = true) : quote v = v.shown.map enquote := by
  cases v with
  | null | bool | int | float | decimal => cases hv
  | _ => rfl

/-- Keywords and numbers are no string literals. -/
theorem isNumeral_of_quote {v : Value} {s : String} (hv : v.isTextual = false) (h : quote v = .ok s) :
    IsNumeral s.toList := by
  cases v with
  | null => cases h; decide
  | bool b => cases h; cases b <;> decide
  | int i =>
    obtain ⟨-, rfl⟩ := (signedText_eq_ok_iff i s).mp h
    rw [integerText, String.toList_ofList]
    exact isNumeral_integerChars i
  | float x => cases h; exact x.isNumeral_text
  | decimal x => cases h; exact x.isNumeral_text
  | _ => cases hv

theorem isBare_of_quote {v : Value} {s : String} (hv : v.isTextual = false) (h : quote v = .ok s) :
    IsBare s.toList := (isNumeral_of_quote hv h).isBare

theorem isSealed_of_quote {v : Value} {s : String} (h : quote v = .ok s) :
    isSealed false s.toList = true := by
  cases hv : v.isTextual with
  | false => exact (isBare_of_quote hv h).isSealed
  | true =>
    rw [quote_of_textual hv] at h
    obtain ⟨t, -, rfl⟩ := map_eq_ok_iff.mp h
    exact isSealed_enquote t

end SqlDraft
