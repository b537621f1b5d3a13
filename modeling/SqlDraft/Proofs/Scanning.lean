import Mathlib.Data.List.Basic
import SqlDraft.Proofs.Literals

/-!
# Scanning literals

A database scans a string literal character by character: two single quotes side by side are one quote of
the text, and a single quote with no other behind it ends the literal. The scanner looks one character
ahead, so what follows a literal must not start with a single quote.

* `scanText`, `scanLiteral`: the scanner, behind the opening quote and from it on.
* `scanText_doubled`, `scanText_end`: what it does at a character of a text, and at the end of the text.
* `scanText_doubleQuotes`, `scanLiteral_enquote`: it reads a whole text back, and nothing behind it.
* `enquote_injective`: so different texts have different literals.
* `literals_scan_back`: the same for the literals of values.
-/

namespace SqlDraft

/-! ## The scanner -/

/-- The text up to the first single quote with no other behind it, and what follows that quote. Two single
quotes side by side are one of the text. Without a quote that ends it there is no text. -/
def scanText : List Char → Option (List Char × List Char)
  | [] => none
  | c :: cs =>
    if c = singleQuote then
      match cs with
      | [] => some ([], [])
      | d :: ds =>
        if d = singleQuote then (scanText ds).map fun r => (singleQuote :: r.1, r.2)
        else some ([], d :: ds)
    else (scanText cs).map fun r => (c :: r.1, r.2)

/-- The text of the string literal at the start of a text, and what follows the literal. -/
def scanLiteral (s : String) : Option (String × String) :=
  match s.toList with
  | [] => none
  | c :: cs =>
    if c = singleQuote then (scanText cs).map fun r => (String.ofList r.1, String.ofList r.2) else none

/-! ## Texts -/

/-- A character is read as itself, a quote from its pair. -/
theorem scanText_doubled (c : Char) (cs : List Char) :
    scanText (doubleQuotes [c] ++ cs) = (scanText cs).map fun r => (c :: r.1, r.2) := by
  by_cases hc : c = singleQuote
  · subst hc
    simp [doubleQuotes, scanText]
  · rw [doubleQuotes_cons_of_ne hc, doubleQuotes_nil, List.singleton_append, scanText.eq_def]
    exact if_neg hc

/-- A quote ends the text if no other follows it. -/
theorem scanText_end {rest : List Char} (h : rest.head? ≠ some singleQuote) :
    scanText (singleQuote :: rest) = some ([], rest) := by
  cases rest with
  | nil => simp [scanText]
  | cons d ds =>
    have hd : d ≠ singleQuote := by simpa using h
    simp [scanText, hd]

/-- A text is read back up to the quote that ends it. -/
theorem scanText_doubleQuotes (cs : List Char) {rest : List Char} (h : rest.head? ≠ some singleQuote) :
    scanText (doubleQuotes cs ++ singleQuote :: rest) = some (cs, rest) := by
  induction cs with
  | nil => exact scanText_end h
  | cons c cs ih =>
    have hsplit : doubleQuotes (c :: cs) = doubleQuotes [c] ++ doubleQuotes cs :=
      doubleQuotes_append [c] cs
    rw [hsplit, List.append_assoc, scanText_doubled, ih]
    rfl

theorem scanLiteral_enquote (s : String) {rest : String} (h : rest.toList.head? ≠ some singleQuote) :
    scanLiteral (enquote s ++ rest) = some (s, rest) := by
  have htoList : (enquote s ++ rest).toList =
      singleQuote :: (doubleQuotes s.toList ++ singleQuote :: rest.toList) := by
    simp [enquote]
  rw [scanLiteral, htoList]
  simp [scanText_doubleQuotes s.toList h]

/-- A literal tells its text: it is scanned back to it. -/
theorem enquote_injective {s t : String} (h : enquote s = enquote t) : s = t := by
  have hempty : ("" : String).toList.head? ≠ some singleQuote := by decide
  have hs := scanLiteral_enquote s hempty
  rw [h, scanLiteral_enquote t hempty] at hs
  simpa using hs.symm

/-! ## Values -/

/-- A value that has a text, and a string literal, has the literal of its text. -/
theorem quote_of_shown {v : Value} {s : String} (hv : v.isTextual = true) (h : v.shown = .ok s) :
    quote v = .ok (enquote s) := by
  rw [quote_of_textual hv, h, map_ok]

/-- A bare literal is no string literal: it does not start with a quote. -/
theorem enquote_ne_of_isBare {s t : String} (h : IsBare t.toList) : enquote s ≠ t := by
  rintro rfl
  have hmem : singleQuote ∈ (enquote s).toList := by simp [enquote]
  exact (h singleQuote hmem).2 rfl

/-- **Literals are scanned back.** A value that is neither absent, a truth value nor a number has a literal if
it has a text, and wherever that literal stands in front of anything but a single quote, it is scanned as
exactly this text. So equal literals come from equal texts, and the literal of such a value is not that of any
other. -/
theorem literals_scan_back :
    (∀ (v : Value) (s : String), v.isTextual = true → v.shown = .ok s →
      ∃ literal, quote v = .ok literal ∧
        ∀ rest : String, rest.toList.head? ≠ some singleQuote →
          scanLiteral (literal ++ rest) = some (s, rest)) ∧
    (∀ (v w : Value) (literal : String), v.isTextual = true → w.isTextual = true →
      quote v = .ok literal → quote w = .ok literal →
        ∃ s, v.shown = .ok s ∧ w.shown = .ok s) ∧
    ∀ (v w : Value) (literal : String), v.isTextual = true → w.isTextual = false →
      quote v = .ok literal → quote w ≠ .ok literal := by
  refine ⟨?_, ?_, ?_⟩
  · intro v s hv hs
    exact ⟨enquote s, quote_of_shown hv hs, fun rest hrest => scanLiteral_enquote s hrest⟩
  · intro v w literal hv hw hquote hquote'
    rw [quote_of_textual hv] at hquote
    rw [quote_of_textual hw] at hquote'
    obtain ⟨s, hs, rfl⟩ := map_eq_ok_iff.mp hquote
    obtain ⟨t, ht, hliteral⟩ := map_eq_ok_iff.mp hquote'
    obtain rfl := enquote_injective hliteral
    exact ⟨t, hs, ht⟩
  · intro v w literal hv hw hquote hquote'
    rw [quote_of_textual hv] at hquote
    obtain ⟨s, -, hliteral⟩ := map_eq_ok_iff.mp hquote
    exact enquote_ne_of_isBare (isBare_of_quote hw hquote') hliteral

/-- Quotes at the start, in a run and at the end of a text, a list that is shown with quotes, and a text that
reads like a number. -/
theorem literals_scan_back_quotes :
    (∃ literal, quote (.text "'it''s'") = .ok literal ∧
      scanLiteral (literal ++ ", 'x')") = some ("'it''s'", ", 'x')")) ∧
    (∃ s, (Value.list [.text "a'b", .null]).shown = .ok s ∧ (Value.text "[\"a'b\", None]").shown = .ok s) ∧
    quote (.int 1) ≠ .ok "'1'" := by
  refine ⟨?_, ?_, ?_⟩
  · obtain ⟨literal, hliteral, hscan⟩ := literals_scan_back.1 (.text "'it''s'") "'it''s'" rfl rfl
    exact ⟨literal, hliteral, hscan ", 'x')" (by decide)⟩
  · have hlist : quote (.list [.text "a'b", .null]) = .ok "'[\"a''b\", None]'" := by decide +kernel
    have htext : quote (.text "[\"a'b\", None]") = .ok "'[\"a''b\", None]'" := by decide +kernel
    exact literals_scan_back.2.1 _ _ _ rfl rfl hlist htext
  · have htext : quote (.text "1") = .ok "'1'" := rfl
    exact literals_scan_back.2.2 (.text "1") (.int 1) "'1'" rfl rfl htext

end SqlDraft
