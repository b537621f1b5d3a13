import SqlDraft.Proofs.Scanning

/-!
# Scanning literals with backslashes

A database can also take a backslash in a string literal for the start of an escape: the backslash and the
character behind it stand for another character. A literal leaves the backslashes of its text alone, so such a
scanner need not read the text back, nor stop where the literal ends.

* `escapedChars`, `scanEscaped`, `scanEscapedLiteral`: the scanner.
* `readEscapes`: what the escapes of a text stand for, if none of them takes a single quote or reaches over the end.
* `length_rest_lt_of_scanEscaped`, `rest_ne_of_scanEscaped_ahead`: the scanner cannot return to the end of a literal
  once it is one quote ahead.
* `scanEscaped_doubleQuotes_iff`: it stops at the end of a literal exactly if the escapes can be read.
* `readEscapes_eq_self_iff`: which texts are read back.
* `escaped_literals_scan_back`: the same for the literals of values.
-/

namespace SqlDraft

/-! ## The scanner -/

/-- The character that starts an escape. -/
def backslash : Char := '\\'

/-- The wildcards of patterns. -/
def isWildcard (c : Char) : Bool := c == '%' || c == '_'

/-- What a backslash and a character behind it stand for: a control character, or the character itself. In front
of a wildcard the backslash is kept. -/
def escapedChars (c : Char) : List Char :=
  match c with
  | '0' => ['\x00']
  | 'b' => ['\x08']
  | 'n' => ['\n']
  | 'r' => ['\r']
  | 't' => ['\t']
  | 'Z' => ['\x1a']
  | c => if isWildcard c then [backslash, c] else [c]

/-- The text up to the first single quote that neither belongs to an escape nor has another behind it, and what
follows that quote. -/
def scanEscaped : List Char → Option (List Char × List Char)
  | [] => none
  | c :: cs =>
    if c = backslash then
      match cs with
      | [] => none
      | d :: ds => (scanEscaped ds).map fun r => (escapedChars d ++ r.1, r.2)
    else if c = singleQuote then
      match cs with
      | [] => some ([], [])
      | d :: ds =>
        if d = singleQuote then (scanEscaped ds).map fun r => (singleQuote :: r.1, r.2)
        else some ([], d :: ds)
    else (scanEscaped cs).map fun r => (c :: r.1, r.2)

/-- The text of the string literal at the start of a text, and what follows the literal. -/
def scanEscapedLiteral (s : String) : Option (String × String) :=
  match s.toList with
  | [] => none
  | c :: cs =>
    if c = singleQuote then (scanEscaped cs).map fun r => (String.ofList r.1, String.ofList r.2) else none

/-- What a text stands for when its backslashes start escapes. There is no such text if a backslash takes a single
quote, or nothing is left for it to take. -/
def readEscapes : List Char → Option (List Char)
  | [] => some []
  | c :: cs =>
    if c = backslash then
      match cs with
      | [] => none
      | d :: ds => if d = singleQuote then none else (readEscapes ds).map fun t => escapedChars d ++ t
    else (readEscapes cs).map fun t => c :: t

/-! ## Single steps -/

variable {cs ds rest t : List Char} {c d : Char}

theorem scanEscaped_escape (d : Char) (cs : List Char) :
    scanEscaped (backslash :: d :: cs) = (scanEscaped cs).map fun r => (escapedChars d ++ r.1, r.2) := by
  rw [scanEscaped.eq_def]
  rfl

theorem scanEscaped_pair (cs : List Char) :
    scanEscaped (singleQuote :: singleQuote :: cs) = (scanEscaped cs).map fun r => (singleQuote :: r.1, r.2) := by
  rw [scanEscaped.eq_def]
  rfl

theorem scanEscaped_end (h : rest.head? ≠ some singleQuote) :
    scanEscaped (singleQuote :: rest) = some ([], rest) := by
  have hquote : singleQuote ≠ backslash := by decide
  rw [scanEscaped.eq_def]
  cases rest with
  | nil => rfl
  | cons d ds =>
    have hd : d ≠ singleQuote := by simpa using h
    simp only [if_neg hquote, if_neg hd, if_true]

theorem scanEscaped_cons (hbackslash : c ≠ backslash) (hquote : c ≠ singleQuote) (cs : List Char) :
    scanEscaped (c :: cs) = (scanEscaped cs).map fun r => (c :: r.1, r.2) := by
  rw [scanEscaped.eq_def]
  simp only [if_neg hbackslash, if_neg hquote]

theorem readEscapes_escape (hd : d ≠ singleQuote) (cs : List Char) :
    readEscapes (backslash :: d :: cs) = (readEscapes cs).map fun t => escapedChars d ++ t := by
  rw [readEscapes.eq_def]
  simp only [if_true, if_neg hd]

theorem readEscapes_cons (hc : c ≠ backslash) (cs : List Char) :
    readEscapes (c :: cs) = (readEscapes cs).map fun t => c :: t := by
  rw [readEscapes.eq_def]
  exact if_neg hc

/-- What is read before the rest is put in front of what the rest gives. -/
theorem map_fst_eq_some_iff {f : List Char → List Char} {o : Option (List Char × List Char)} :
    (o.map fun r => (f r.1, r.2)) = some (t, rest) ↔ ∃ u, o = some (u, rest) ∧ f u = t := by
  cases o with
  | none => simp
  | some r => simp [Prod.ext_iff, and_comm]

/-! ## Where the scanner stops -/

/-- Something is always read: what is left is shorter than the whole. -/
theorem length_rest_lt_of_scanEscaped (h : scanEscaped cs = some (t, rest)) : rest.length < cs.length := by
  induction cs using scanEscaped.induct generalizing t with
  | case1 | case2 => simp [scanEscaped] at h
  | case3 d ds ih =>
    rw [scanEscaped_escape, map_fst_eq_some_iff] at h
    obtain ⟨u, hu, -⟩ := h
    exact Nat.lt_succ_of_lt (Nat.lt_succ_of_lt (ih hu))
  | case4 =>
    rw [scanEscaped_end (by simp)] at h
    cases h
    exact Nat.zero_lt_one
  | case5 ds _ ih =>
    rw [scanEscaped_pair, map_fst_eq_some_iff] at h
    obtain ⟨u, hu, -⟩ := h
    exact Nat.lt_succ_of_lt (Nat.lt_succ_of_lt (ih hu))
  | case6 d ds hd =>
    rw [scanEscaped_end (by simpa using hd)] at h
    cases h
    exact Nat.lt_succ_self _
  | case7 c ds hbackslash hquote ih =>
    rw [scanEscaped_cons hbackslash hquote, map_fst_eq_some_iff] at h
    obtain ⟨u, hu, -⟩ := h
    exact Nat.lt_succ_of_lt (ih hu)

/-- One quote ahead, the scanner does not stop at the end of a literal: it stops at a character of the text that is
no quote, or else runs over the end. -/
theorem rest_ne_of_scanEscaped_ahead {rest' : List Char}
    (h : scanEscaped (singleQuote :: (doubleQuotes cs ++ singleQuote :: rest)) = some (t, rest')) : rest' ≠ rest := by
  induction cs generalizing t with
  | nil =>
    rw [doubleQuotes_nil, List.nil_append, scanEscaped_pair, map_fst_eq_some_iff] at h
    obtain ⟨u, hu, -⟩ := h
    rintro rfl
    exact Nat.lt_irrefl _ (length_rest_lt_of_scanEscaped hu)
  | cons c cs ih =>
    by_cases hc : c = singleQuote
    · subst hc
      rw [doubleQuotes_cons_quote, List.cons_append, List.cons_append, scanEscaped_pair, map_fst_eq_some_iff] at h
      obtain ⟨u, hu, -⟩ := h
      exact ih hu
    · rw [doubleQuotes_cons_of_ne hc, List.cons_append, scanEscaped_end (by simpa using hc)] at h
      cases h
      intro hrest
      have hlength := congrArg List.length hrest
      simp only [List.length_cons, List.length_append] at hlength
      omega

/-- The scanner stops at the end of a literal exactly if the escapes of its text can be read, and reads what they
stand for. -/
theorem scanEscaped_doubleQuotes_iff (h : rest.head? ≠ some singleQuote) :
    scanEscaped (doubleQuotes cs ++ singleQuote :: rest) = some (t, rest) ↔ readEscapes cs = some t := by
  have hbackslash : backslash ≠ singleQuote := by decide
  induction cs using readEscapes.induct generalizing t with
  | case1 => simp [scanEscaped_end h, readEscapes]
  | case2 =>
    -- The backslash takes the quote that should end the literal.
    rw [doubleQuotes_cons_of_ne hbackslash, doubleQuotes_nil, List.cons_append, List.nil_append, scanEscaped_escape,
      map_fst_eq_some_iff]
    refine iff_of_false ?_ (by simp [readEscapes])
    rintro ⟨u, hu, -⟩
    exact Nat.lt_irrefl _ (length_rest_lt_of_scanEscaped hu)
  | case3 ds =>
    -- The backslash takes the first quote of a pair.
    rw [doubleQuotes_cons_of_ne hbackslash, doubleQuotes_cons_quote, List.cons_append, List.cons_append,
      List.cons_append, scanEscaped_escape, map_fst_eq_some_iff]
    refine iff_of_false ?_ (by simp [readEscapes])
    rintro ⟨u, hu, -⟩
    exact rest_ne_of_scanEscaped_ahead hu rfl
  | case4 d ds hd ih =>
    rw [doubleQuotes_cons_of_ne hbackslash, doubleQuotes_cons_of_ne hd, List.cons_append, List.cons_append,
      scanEscaped_escape, map_fst_eq_some_iff, readEscapes_escape hd]
    simp only [ih, Option.map_eq_some_iff]
  | case5 c ds hc ih =>
    rw [readEscapes_cons hc]
    by_cases hquote : c = singleQuote
    · subst hquote
      rw [doubleQuotes_cons_quote, List.cons_append, List.cons_append, scanEscaped_pair, map_fst_eq_some_iff]
      simp only [ih, Option.map_eq_some_iff]
    · rw [doubleQuotes_cons_of_ne hquote, List.cons_append, scanEscaped_cons hc hquote, map_fst_eq_some_iff]
      simp only [ih, Option.map_eq_some_iff]

/-! ## Texts that are read back -/

/-- A text in which every backslash stands directly in front of a wildcard. -/
def SparesBackslashes (cs : List Char) : Prop :=
  ∀ ds, backslash :: ds <:+ cs → ds.head?.any isWildcard = true

theorem sparesBackslashes_cons :
    SparesBackslashes (c :: cs) ↔ (c = backslash → cs.head?.any isWildcard = true) ∧ SparesBackslashes cs := by
  constructor
  · intro h
    refine ⟨?_, fun ds hds => h ds (List.suffix_cons_iff.mpr (.inr hds))⟩
    rintro rfl
    exact h cs List.suffix_rfl
  · rintro ⟨hhead, htail⟩ ds hds
    rcases List.suffix_cons_iff.mp hds with heq | hds
    · obtain ⟨rfl, rfl⟩ := List.cons.inj heq
      exact hhead rfl
    · exact htail ds hds

theorem sparesBackslashes_of_not_mem (h : backslash ∉ cs) : SparesBackslashes cs :=
  fun _ hds => absurd (hds.mem List.mem_cons_self) h

/-- An escape stands for one character, except in front of a wildcard. -/
theorem escapedChars_cases (d : Char) :
    isWildcard d = true ∧ escapedChars d = [backslash, d] ∨ isWildcard d = false ∧ ∃ e, escapedChars d = [e] := by
  unfold escapedChars
  split
  all_goals first
    | exact .inr ⟨by decide, _, rfl⟩
    | skip
  cases hd : isWildcard d with
  | true => exact .inl ⟨rfl, rfl⟩
  | false => exact .inr ⟨rfl, d, rfl⟩

/-- Escapes stand for no more than there is. -/
theorem length_le_of_readEscapes (h : readEscapes cs = some t) : t.length ≤ cs.length := by
  induction cs using readEscapes.induct generalizing t with
  | case1 =>
    cases h
    exact Nat.le_refl 0
  | case2 | case3 => simp [readEscapes] at h
  | case4 d ds hd ih =>
    rw [readEscapes_escape hd, Option.map_eq_some_iff] at h
    obtain ⟨u, hu, rfl⟩ := h
    have hlength : (escapedChars d).length ≤ 2 := by
      rcases escapedChars_cases d with ⟨-, h⟩ | ⟨-, e, h⟩ <;> simp [h]
    have hle := ih hu
    simp only [List.length_append, List.length_cons]
    omega
  | case5 c ds hc ih =>
    rw [readEscapes_cons hc, Option.map_eq_some_iff] at h
    obtain ⟨u, hu, rfl⟩ := h
    exact Nat.succ_le_succ (ih hu)

/-- Exactly those texts stand for themselves in which every backslash stands in front of a wildcard. -/
theorem readEscapes_eq_self_iff : readEscapes cs = some cs ↔ SparesBackslashes cs := by
  induction cs using readEscapes.induct with
  | case1 => exact iff_of_true rfl (sparesBackslashes_of_not_mem List.not_mem_nil)
  | case2 =>
    refine iff_of_false (by simp [readEscapes]) fun h => ?_
    exact absurd ((sparesBackslashes_cons.mp h).1 rfl) (by decide)
  | case3 ds =>
    refine iff_of_false (by simp [readEscapes]) fun h => ?_
    exact absurd ((sparesBackslashes_cons.mp h).1 rfl) (by simp [isWildcard, singleQuote])
  | case4 d ds hd ih =>
    rw [readEscapes_escape hd, Option.map_eq_some_iff, sparesBackslashes_cons, sparesBackslashes_cons, ← ih]
    rcases escapedChars_cases d with ⟨hwild, hescaped⟩ | ⟨hplain, e, hescaped⟩
    · have hne : d ≠ backslash := by
        rintro rfl
        exact absurd hwild (by decide)
      simp [hescaped, hwild, hne]
    · -- An escape that stands for one character makes the text shorter.
      refine iff_of_false ?_ ?_
      · rintro ⟨u, hu, heq⟩
        have hlength := congrArg List.length heq
        have hle := length_le_of_readEscapes hu
        rw [hescaped] at hlength
        simp only [List.length_append, List.length_cons, List.length_nil] at hlength
        omega
      · rintro ⟨h, -⟩
        have hwild := h rfl
        rw [List.head?_cons, Option.any_some, hplain] at hwild
        cases hwild
  | case5 c ds hc ih =>
    rw [readEscapes_cons hc, Option.map_eq_some_iff, sparesBackslashes_cons, ← ih]
    simp [hc]

/-! ## Values -/

theorem scanEscapedLiteral_enquote_iff (s t : String) {rest : String} (h : rest.toList.head? ≠ some singleQuote) :
    scanEscapedLiteral (enquote s ++ rest) = some (t, rest) ↔ readEscapes s.toList = some t.toList := by
  have htoList : (enquote s ++ rest).toList =
      singleQuote :: (doubleQuotes s.toList ++ singleQuote :: rest.toList) := by
    simp [enquote]
  rw [scanEscapedLiteral, htoList, ← scanEscaped_doubleQuotes_iff h]
  simp only [if_true, Option.map_eq_some_iff]
  constructor
  · rintro ⟨r, hr, heq⟩
    obtain ⟨rfl, hrest⟩ := Prod.mk.inj heq
    rw [hr, String.toList_ofList, ← hrest, String.toList_ofList]
  · intro hscan
    exact ⟨_, hscan, by rw [String.ofList_toList, String.ofList_toList]⟩

/-- **A scanner with escapes reads back what it spares.** Where the literal of a text stands in front of anything
but a single quote, a scanner that takes backslashes for escapes stops at its end exactly if no backslash of the text
takes a quote or reaches over the end, and reads what the escapes stand for. So it reads the text back exactly if
every backslash of the text stands in front of a wildcard, and does so for a text without backslashes. -/
theorem escaped_literals_scan_back (v : Value) (s : String) (hv : v.isTextual = true) (hs : v.shown = .ok s) :
    ∃ literal, quote v = .ok literal ∧ ∀ rest : String, rest.toList.head? ≠ some singleQuote →
      (∀ t : String, scanEscapedLiteral (literal ++ rest) = some (t, rest) ↔
        readEscapes s.toList = some t.toList) ∧
      (scanEscapedLiteral (literal ++ rest) = some (s, rest) ↔ SparesBackslashes s.toList) ∧
      (backslash ∉ s.toList → scanEscapedLiteral (literal ++ rest) = some (s, rest)) := by
  refine ⟨enquote s, quote_of_shown hv hs, fun rest hrest => ?_⟩
  have hself : scanEscapedLiteral (enquote s ++ rest) = some (s, rest) ↔ SparesBackslashes s.toList := by
    rw [scanEscapedLiteral_enquote_iff s s hrest, readEscapes_eq_self_iff]
  refine ⟨fun t => scanEscapedLiteral_enquote_iff s t hrest, hself, ?_⟩
  exact fun hfree => hself.mpr (sparesBackslashes_of_not_mem hfree)

/-- A text with quotes and no backslash, one with a backslash in front of a wildcard, and one with an escape. -/
theorem escaped_literals_scan_back_wildcard :
    scanEscapedLiteral ("'it''s'" ++ ", 'x')") = some ("it's", ", 'x')") ∧
      scanEscapedLiteral ("'100\\%'" ++ ", 'x')") = some ("100\\%", ", 'x')") ∧
      scanEscapedLiteral ("'a\\nb'" ++ ", 'x')") = some ("a\nb", ", 'x')") := by
  have hrest : ", 'x')".toList.head? ≠ some singleQuote := by decide
  refine ⟨?_, ?_, ?_⟩
  · obtain ⟨literal, hliteral, hscan⟩ := escaped_literals_scan_back (.text "it's") "it's" rfl rfl
    cases hliteral
    exact (hscan _ hrest).2.2 (by decide)
  · obtain ⟨literal, hliteral, hscan⟩ := escaped_literals_scan_back (.text "100\\%") "100\\%" rfl rfl
    cases hliteral
    exact ((hscan _ hrest).1 _).mpr (by decide)
  · obtain ⟨literal, hliteral, hscan⟩ := escaped_literals_scan_back (.text "a\\nb") "a\\nb" rfl rfl
    cases hliteral
    exact ((hscan _ hrest).1 _).mpr (by decide)

/-- A backslash at the end of a text takes the quote that should end the literal. What follows the literal is then
read as text, and the next text as a part of the statement. -/
theorem backslash_takes_quote :
    quote (.text "\\") = .ok "'\\'" ∧ quote (.text " OR 1 = 1 -- ") = .ok "' OR 1 = 1 -- '" ∧
      scanEscapedLiteral ("'\\'" ++ "") = none ∧
      scanEscapedLiteral ("'\\'" ++ ", b = ' OR 1 = 1 -- '") = some ("', b = ", " OR 1 = 1 -- '") := by
  decide +kernel

end SqlDraft
