import SqlDraft.Proofs.Columns
import SqlDraft.Proofs.Distinctness
import SqlDraft.Proofs.Literals

/-!
# Numbers as numeric literals

A numeric literal of SQL has an optional sign, digits with at most one point among them, and an optional exponent.
The literal of a finite number is one, in whatever form the number is written. The literal of an infinity or of a
value that is no number is a bare word instead, which reads like the name of a column.

* `IsSignificand`, `IsExponent`, `IsNumericLiteral`: the grammar.
* `IsNumericLiteral.exists_first`, `not_isNumericLiteral_of_isIdentifier`: how a numeric literal starts, and that
  no name does so.
* `isSignificand_positional` to `Binary64.isUnsignedLiteral_magnitudeText`: the forms of finite numbers.
* `IsSignedName`, `isSignedName_signed`: the words for the other numbers.
* `bare_literals_numeric`: exactly the finite numbers have numeric literals.
-/

namespace SqlDraft

/-! ## The grammar -/

/-- Digits with at most one point among them, and at least one digit. -/
inductive IsSignificand : List Char → Prop
  | whole {ds : List Char} (digits : IsDigits ds) (nonempty : ds ≠ []) : IsSignificand ds
  | pointed {ds es : List Char} (before : IsDigits ds) (behind : IsDigits es) (nonempty : ds ++ es ≠ []) :
    IsSignificand (ds ++ '.' :: es)

/-- Nothing, or an exponent: its mark, an optional sign and at least one digit. -/
inductive IsExponent : List Char → Prop
  | absent : IsExponent []
  | present {mark : Char} {ds : List Char} (sign : Sign) (letter : mark = 'e' ∨ mark = 'E') (digits : IsDigits ds)
    (nonempty : ds ≠ []) : IsExponent (mark :: (sign.chars ++ ds))

/-- A numeric literal without its sign. -/
def IsUnsignedLiteral (cs : List Char) : Prop :=
  ∃ significand exponent, IsSignificand significand ∧ IsExponent exponent ∧ cs = significand ++ exponent

/-- A numeric literal of SQL. -/
def IsNumericLiteral (cs : List Char) : Prop :=
  ∃ (sign : Sign) (number : List Char), IsUnsignedLiteral number ∧ cs = sign.chars ++ number

variable {cs ds : List Char}

/-- A significand starts with a digit or a point. -/
theorem IsSignificand.exists_first (h : IsSignificand cs) :
    ∃ c rest, cs = c :: rest ∧ (c.isDigit = true ∨ c = '.') := by
  cases h with
  | whole digits nonempty =>
    obtain ⟨c, rest, rfl⟩ := List.exists_cons_of_ne_nil nonempty
    exact ⟨c, rest, rfl, .inl (digits c List.mem_cons_self)⟩
  | @pointed ds es before =>
    cases ds with
    | nil => exact ⟨'.', es, rfl, .inr rfl⟩
    | cons c ds => exact ⟨c, ds ++ '.' :: es, rfl, .inl (before c List.mem_cons_self)⟩

/-- So does a numeric literal, behind its sign. -/
theorem IsNumericLiteral.exists_first (h : IsNumericLiteral cs) :
    ∃ (sign : Sign) (c : Char) (rest : List Char), cs = sign.chars ++ c :: rest ∧ (c.isDigit = true ∨ c = '.') := by
  obtain ⟨sign, number, ⟨significand, exponent, hsignificand, -, rfl⟩, rfl⟩ := h
  obtain ⟨c, rest, rfl, hc⟩ := hsignificand.exists_first
  exact ⟨sign, c, rest ++ exponent, rfl, hc⟩

/-- A digit or a point does not start a name. -/
theorem startsName_of_digit_or_point {c : Char} (h : c.isDigit = true ∨ c = '.') : startsName c = false := by
  rcases h with hdigit | rfl
  · have hline : c ≠ '_' := by
      rintro rfl
      exact absurd hdigit (by decide)
    have hletter : c.isAlpha = false := by
      simp only [Char.isDigit, ge_iff_le, Bool.and_eq_true, decide_eq_true_eq] at hdigit
      show (decide (c.val ≥ 65 ∧ c.val ≤ 90) || decide (c.val ≥ 97) && decide (c.val ≤ 122)) = false
      grind
    rw [startsName, hletter, Bool.false_or, beq_eq_false_iff_ne]
    exact hline
  · decide

/-- What follows a sign is found behind it, unless it is a sign in turn. -/
theorem takeSign_chars_append (sign : Sign) {c : Char} (hminus : c ≠ '-') (hplus : c ≠ '+') (cs : List Char) :
    (takeSign (sign.chars ++ c :: cs)).2 = c :: cs := by
  cases sign with
  | plus | minus => rfl
  | absent =>
    show (takeSign (c :: cs)).2 = c :: cs
    unfold takeSign
    split
    · rename_i h
      exact absurd (List.cons.inj h).1 hminus
    · rename_i h
      exact absurd (List.cons.inj h).1 hplus
    · rfl

/-- A name is no numeric literal, with a sign or without. -/
theorem not_isNumericLiteral_of_isIdentifier (sign : Sign) {word : String} (hword : IsIdentifier word) :
    ¬IsNumericLiteral (sign.chars ++ word.toList) := by
  intro h
  obtain ⟨c, cs, hcs, hc⟩ := hword.exists_cons
  obtain ⟨sign', d, ds, hds, hd⟩ := h.exists_first
  have hcne (b : Char) (hb : startsName b = false) : c ≠ b := by
    rintro rfl
    rw [hb] at hc
    cases hc
  have hdne (b : Char) (hb : b.isDigit = false ∧ b ≠ '.') : d ≠ b := by
    rintro rfl
    exact hd.elim (fun hdigit => absurd hdigit (by simp [hb.1])) hb.2
  rw [hcs] at hds
  have htaken := congrArg (fun r => (takeSign r).2) hds
  simp only [takeSign_chars_append sign (hcne '-' (by decide)) (hcne '+' (by decide)),
    takeSign_chars_append sign' (hdne '-' (by decide)) (hdne '+' (by decide)), List.cons.injEq] at htaken
  exact hcne d (startsName_of_digit_or_point hd) htaken.1

/-- A numeric literal does not read like a name. -/
theorem IsNumericLiteral.not_isIdentifier {s : String} (h : IsNumericLiteral s.toList) : ¬IsIdentifier s :=
  fun hs => not_isNumericLiteral_of_isIdentifier .absent hs h

/-! ## Finite numbers -/

theorem isDigits_placePoint (h : IsDigits ds) (point : Int) :
    IsDigits (placePoint ds point).1 ∧ IsDigits (placePoint ds point).2 := by
  unfold placePoint
  dsimp only
  split
  · exact ⟨nofun, (isDigits_zeros _).append h⟩
  · exact ⟨.append (fun c hc => h c (List.mem_of_mem_take hc)) (isDigits_zeros _),
      fun c hc => h c (List.mem_of_mem_drop hc)⟩

theorem isDigits_orZero (h : IsDigits ds) : IsDigits (orZero ds) ∧ orZero ds ≠ [] := by
  cases ds with
  | nil => exact ⟨by simp [orZero, IsDigits], by simp [orZero]⟩
  | cons d ds => exact ⟨h, by simp [orZero]⟩

/-- With a zero in place of no digits at all, there is a digit in front of the point. -/
theorem isSignificand_orZero_pointed {es : List Char} (h : IsDigits ds) (hes : IsDigits es) :
    IsSignificand (orZero ds ++ '.' :: es) := by
  obtain ⟨hdigits, hnonempty⟩ := isDigits_orZero h
  exact .pointed hdigits hes fun hnil => hnonempty (List.append_eq_nil_iff.mp hnil).1

/-- A number in positional form is a significand. -/
theorem isSignificand_positional (h : IsDigits ds) (point : Int) : IsSignificand (positional ds point) := by
  obtain ⟨hwhole, hpart⟩ := isDigits_placePoint h point
  unfold positional
  split
  · rename_i hp
    rw [hp] at hwhole
    exact .whole (isDigits_orZero hwhole).1 (isDigits_orZero hwhole).2
  · rename_i hp
    rw [hp] at hwhole hpart
    exact isSignificand_orZero_pointed hwhole hpart

/-- So is one with at least one digit behind the point. -/
theorem isSignificand_withPoint (h : IsDigits ds) (point : Int) : IsSignificand (Binary64.withPoint ds point) := by
  obtain ⟨hwhole, hpart⟩ := isDigits_placePoint h point
  unfold Binary64.withPoint
  split
  · rename_i hp
    rw [hp] at hwhole
    exact isSignificand_orZero_pointed hwhole (isDigits_zeros 1)
  · rename_i hp
    rw [hp] at hwhole hpart
    exact isSignificand_orZero_pointed hwhole hpart

theorem isExponent_exponentChars {mark : Char} (hmark : mark = 'e' ∨ mark = 'E') (width : Nat) (e : Int) :
    IsExponent (mark :: exponentChars width e) := by
  have hdigits := isDigits_zeroPadded width e.natAbs
  have hnonempty := zeroPadded_ne_nil width e.natAbs
  unfold exponentChars
  split
  · exact .present .minus hmark hdigits hnonempty
  · exact .present .plus hmark hdigits hnonempty

theorem IsSignificand.isUnsignedLiteral (h : IsSignificand cs) : IsUnsignedLiteral cs :=
  ⟨cs, [], h, .absent, (List.append_nil cs).symm⟩

theorem isUnsignedLiteral_scientific {mark : Char} (hmark : mark = 'e' ∨ mark = 'E') (width : Nat) (h : IsDigits ds)
    (point : Int) : IsUnsignedLiteral (scientific mark width ds point) :=
  ⟨_, _, isSignificand_positional h 1, isExponent_exponentChars hmark width (point - 1), rfl⟩

theorem isNumericLiteral_signed (negative : Bool) (h : IsUnsignedLiteral cs) :
    IsNumericLiteral (Binary64.signChars negative ++ cs) := by
  cases negative with
  | true => exact ⟨.minus, cs, h, rfl⟩
  | false => exact ⟨.absent, cs, h, rfl⟩

theorem isNumericLiteral_integerChars (i : Int) : IsNumericLiteral (integerChars i) := by
  have hdigits (n : Nat) : IsUnsignedLiteral (decimalDigits n) :=
    (IsSignificand.whole (isDigits_decimalDigits n) Nat.toDigits_ne_nil).isUnsignedLiteral
  cases i with
  | ofNat n => exact isNumericLiteral_signed false (hdigits n)
  | negSucc n => exact isNumericLiteral_signed true (hdigits (n + 1))

theorem DecimalNumber.isUnsignedLiteral_magnitudeText (coefficient : Nat) (exponent : Int) :
    IsUnsignedLiteral (magnitudeText coefficient exponent) := by
  have hdigits := isDigits_decimalDigits coefficient
  unfold magnitudeText
  dsimp only
  split
  · exact (isSignificand_positional hdigits _).isUnsignedLiteral
  · split
    · exact (isSignificand_positional hdigits _).isUnsignedLiteral
    · exact isUnsignedLiteral_scientific (.inr rfl) 1 hdigits _

theorem Binary64.isDigits_shortestDigits (m : Nat) (q : Int) : IsDigits (shortestDigits m q).1 := by
  unfold shortestDigits
  split
  · exact isDigits_zeros 1
  · intro c hc
    have hmem := List.mem_reverse.mp (List.dropWhile_subset _ (List.mem_reverse.mp hc))
    exact isDigits_decimalDigits _ _ hmem

theorem Binary64.isUnsignedLiteral_magnitudeText (m : Nat) (q : Int) : IsUnsignedLiteral (magnitudeText m q) := by
  have hdigits := isDigits_shortestDigits m q
  unfold magnitudeText
  dsimp only
  split
  · exact (isSignificand_withPoint hdigits _).isUnsignedLiteral
  · exact isUnsignedLiteral_scientific (.inl rfl) 2 hdigits _

/-! ## Numbers that are not finite -/

/-- A name with a sign in front of it or without, which is not the keyword for an absent value. -/
def IsSignedName (s : String) : Prop :=
  s ≠ "NULL" ∧ ∃ (sign : Sign) (word : String), IsIdentifier word ∧ s = String.ofList sign.chars ++ word

theorem IsSignedName.not_isNumericLiteral {s : String} (h : IsSignedName s) : ¬IsNumericLiteral s.toList := by
  obtain ⟨-, sign, word, hword, rfl⟩ := h
  rw [String.toList_append, String.toList_ofList]
  exact not_isNumericLiteral_of_isIdentifier sign hword

theorem isSignedName_signed (negative : Bool) {word : String} (hword : IsIdentifier word) (hnull : word ≠ "NULL") :
    IsSignedName (String.ofList (Binary64.signChars negative ++ word.toList)) := by
  cases negative with
  | true =>
    refine ⟨fun h => ?_, .minus, word, hword, by rw [String.ofList_append, String.ofList_toList]; rfl⟩
    have hhead := congrArg (fun s => s.toList.head?) h
    exact absurd hhead (by simp [Binary64.signChars])
  | false =>
    have htext : String.ofList (Binary64.signChars false ++ word.toList) = word := String.ofList_toList
    rw [htext]
    exact ⟨hnull, .absent, word, hword, (String.empty_append).symm⟩

/-- Whether a binary number is finite. -/
def Binary64.isFinite (x : Binary64) : Bool :=
  match x.form with
  | .finite .. => true
  | _ => false

theorem Binary64.isNumericLiteral_text {x : Binary64} (h : x.isFinite = true) : IsNumericLiteral x.text.toList := by
  unfold isFinite at h
  unfold text
  rw [String.toList_ofList]
  split at h
  · rename_i negative m q hform
    rw [hform]
    exact isNumericLiteral_signed negative (isUnsignedLiteral_magnitudeText m q)
  · cases h

theorem Binary64.isSignedName_text {x : Binary64} (h : x.isFinite = false) : IsSignedName x.text := by
  unfold isFinite at h
  unfold text
  cases hform : x.form with
  | nan => exact isSignedName_signed false (by decide : IsIdentifier "nan") (by decide)
  | infinite negative => exact isSignedName_signed negative (by decide : IsIdentifier "inf") (by decide)
  | finite negative m q =>
    rw [hform] at h
    cases h

/-- Whether a decimal number is finite. -/
def DecimalNumber.isFinite : DecimalNumber → Bool
  | finite .. => true
  | _ => false

theorem DecimalNumber.isNumericLiteral_text {x : DecimalNumber} (h : x.isFinite = true) :
    IsNumericLiteral x.text.toList := by
  cases x with
  | finite negative coefficient exponent =>
    rw [text, String.toList_ofList]
    exact isNumericLiteral_signed negative (isUnsignedLiteral_magnitudeText coefficient exponent)
  | _ => cases h

/-- The word for a value that is no number, with its diagnostic digits. -/
theorem isIdentifier_nanWord (signaling : Bool) (hds : IsDigits ds) :
    IsIdentifier (String.ofList ((if signaling then ['s'] else []) ++ ['N', 'a', 'N'] ++ ds)) := by
  have hdigits : ∀ d ∈ ds, isNameChar d = true := fun d hd => by simp [isNameChar, Char.isAlphanum, hds d hd]
  have hletters : ((if signaling then ['s'] else []) ++ ['N', 'a', 'N']).all isNameChar = true := by
    cases signaling <;> rfl
  rw [IsIdentifier, IsWord, String.toList_ofList, List.forall_mem_append]
  refine ⟨?_, List.all_eq_true.mp hletters, hdigits⟩
  cases signaling <;> rfl

theorem DecimalNumber.isSignedName_text {x : DecimalNumber} (h : x.isFinite = false) : IsSignedName x.text := by
  unfold text
  cases x with
  | nan negative signaling payload =>
    have hpayload : IsDigits (if payload = 0 then [] else decimalDigits payload) := by
      split
      · rintro c ⟨⟩
      · exact isDigits_decimalDigits payload
    have hsigned := isSignedName_signed negative (isIdentifier_nanWord signaling hpayload) fun hnull => by
      have hchars := congrArg String.toList hnull
      cases signaling <;> simp at hchars
    rw [String.toList_ofList, ← List.append_assoc, ← List.append_assoc] at hsigned
    exact hsigned
  | infinite negative => exact isSignedName_signed negative (by decide : IsIdentifier "Infinity") (by decide)
  | finite => cases h

/-- Whether a value is a finite number; truth values are written as one. -/
def Value.isFinite : Value → Bool
  | .bool _ | .int _ => true
  | .float x => x.isFinite
  | .decimal x => x.isFinite
  | _ => false

theorem isNumericLiteral_of_quote {v : Value} {s : String} (hfinite : v.isFinite = true) (h : quote v = .ok s) :
    IsNumericLiteral s.toList := by
  cases v with
  | bool b =>
    cases h
    cases b with
    | true => exact isNumericLiteral_integerChars 1
    | false => exact isNumericLiteral_integerChars 0
  | int i =>
    obtain ⟨-, rfl⟩ := (signedText_eq_ok_iff i s).mp h
    rw [integerText, String.toList_ofList]
    exact isNumericLiteral_integerChars i
  | float x => cases h; exact Binary64.isNumericLiteral_text hfinite
  | decimal x => cases h; exact DecimalNumber.isNumericLiteral_text hfinite
  | _ => cases hfinite

theorem isSignedName_of_quote {v : Value} {s : String} (hbare : v.isTextual = false) (hnull : v ≠ .null)
    (hfinite : v.isFinite = false) (h : quote v = .ok s) : IsSignedName s := by
  cases v with
  | null => exact absurd rfl hnull
  | bool | int => cases hfinite
  | float x => cases h; exact Binary64.isSignedName_text hfinite
  | decimal x => cases h; exact DecimalNumber.isSignedName_text hfinite
  | _ => cases hbare

/-- **Exactly the finite numbers have numeric literals.** What is not written between quotes is written as `NULL` if
it is the absent value, and as a numeric literal, which does not read like a name, if it is a finite number. An
infinity or a value that is no number is written as a name other than `NULL`, with a sign or without. -/
theorem bare_literals_numeric (v : Value) (hbare : v.isTextual = false) (hwritable : v.Writable) :
    ∃ s, quote v = .ok s ∧ (s = "NULL" ↔ v = .null) ∧ (IsNumericLiteral s.toList ↔ v.isFinite = true) ∧
      (v.isFinite = true → ¬IsIdentifier s) ∧ (v ≠ .null → v.isFinite = false → IsSignedName s) := by
  obtain ⟨s, hs⟩ := v.exists_quote hwritable
  have hname : IsIdentifier "NULL" := by decide
  have hnumeric (hfinite : v.isFinite = true) : IsNumericLiteral s.toList := isNumericLiteral_of_quote hfinite hs
  have hsigned (hnull : v ≠ .null) (hfinite : v.isFinite = false) : IsSignedName s :=
    isSignedName_of_quote hbare hnull hfinite hs
  refine ⟨s, hs, ⟨?_, ?_⟩, ⟨?_, hnumeric⟩, fun hfinite => (hnumeric hfinite).not_isIdentifier, hsigned⟩
  · rintro rfl
    by_contra hnull
    cases hfinite : v.isFinite with
    | true => exact (hnumeric hfinite).not_isIdentifier hname
    | false => exact (hsigned hnull hfinite).1 rfl
  · rintro rfl
    cases hs
    rfl
  · intro hliteral
    by_contra hfinite
    rw [Bool.not_eq_true] at hfinite
    by_cases hnull : v = .null
    · subst hnull
      cases hs
      exact hliteral.not_isIdentifier hname
    · exact (hsigned hnull hfinite).not_isNumericLiteral hliteral

/-- A small binary number, a negative zero that keeps its places, and a value that is no number. -/
theorem bare_literals_numeric_forms :
    (quote (.float (Binary64.ofDecimal true 15 (-6))) = .ok "-1.5e-05" ∧ IsNumericLiteral "-1.5e-05".toList) ∧
      (quote (.decimal (.finite true 0 (-10))) = .ok "-0E-10" ∧ IsNumericLiteral "-0E-10".toList) ∧
      quote (.decimal (.nan true true 12)) = .ok "-sNaN12" ∧ IsSignedName "-sNaN12" := by
  have hfloat : quote (.float (Binary64.ofDecimal true 15 (-6))) = .ok "-1.5e-05" := by decide +kernel
  have hdecimal : quote (.decimal (.finite true 0 (-10))) = .ok "-0E-10" := by decide +kernel
  have hnan : quote (.decimal (.nan true true 12)) = .ok "-sNaN12" := by decide +kernel
  refine ⟨⟨hfloat, ?_⟩, ⟨hdecimal, ?_⟩, hnan, ?_⟩
  · obtain ⟨s, hs, -, hnumeric, -⟩ :=
      bare_literals_numeric (.float (Binary64.ofDecimal true 15 (-6))) rfl (by decide)
    obtain rfl := Except.ok.inj (hfloat.symm.trans hs)
    exact hnumeric.mpr (by decide +kernel)
  · obtain ⟨s, hs, -, hnumeric, -⟩ := bare_literals_numeric (.decimal (.finite true 0 (-10))) rfl (by decide)
    obtain rfl := Except.ok.inj (hdecimal.symm.trans hs)
    exact hnumeric.mpr rfl
  · obtain ⟨s, hs, -, -, -, hsigned⟩ := bare_literals_numeric (.decimal (.nan true true 12)) rfl (by decide)
    obtain rfl := Except.ok.inj (hnan.symm.trans hs)
    exact hsigned nofun rfl

/-- Numbers that are not finite read like the names of columns. -/
theorem infinity_reads_like_name :
    quote (.float Binary64.nan) = .ok "nan" ∧ quote (.decimal (.infinite false)) = .ok "Infinity" ∧
      ∀ s ∈ ["nan", "Infinity"], s ≠ "NULL" ∧ ¬IsNumericLiteral s.toList ∧ IsIdentifier s := by
  refine ⟨by decide +kernel, rfl, ?_⟩
  intro s hs
  have hname : IsIdentifier s ∧ s ≠ "NULL" := by
    rcases List.mem_pair.mp hs with rfl | rfl <;> decide
  exact ⟨hname.2, fun hliteral => hliteral.not_isIdentifier hname.1, hname.1⟩

end SqlDraft
