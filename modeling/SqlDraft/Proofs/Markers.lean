import SqlDraft.Proofs.Literals
import SqlDraft.Proofs.Outline
import SqlDraft.Text.Word

/-!
# Markers of parameters

The layer that takes a statement to the database reads it for markers: a colon with a word behind it stands for
a parameter. It knows nothing of quotes, so a marker may lie in a literal. What a statement is made of is read
piece by piece: no marker reaches from one piece into another, and quoting neither makes a marker nor hides one.

* `markers`: the names of the parameters in a text.
* `Leads`, `Connects`, `markers_append`: a separator cuts a text into two that are read on their own.
* `markers_enquote`: a literal has the markers of its text.
* `Outline.parts`, `Outline.markers_text`: a statement has the markers of its parts.
* `Value.textMarkers`, `Value.markers_literal`: the markers that a value brings along.
-/

namespace SqlDraft

/-! ## Reading a text -/

/-- Whether a colon behind `c` starts no marker. -/
def guardsColon (c : Char) : Bool := c == ':' || c == '\\' || isWordChar c

/-- The name of the marker that a colon starts in front of a text: the word that the text starts with, unless
there is none or a further colon follows it. -/
def markerName (cs : List Char) : Option String :=
  if cs.takeWhile isWordChar = [] ∨ (cs.dropWhile isWordChar).head? = some ':' then none
  else some (String.ofList (cs.takeWhile isWordChar))

/-- The names of the markers in a text, if the character in front of it guards a colon or does not. -/
def markersBehind : Bool → List Char → List String
  | _, [] => []
  | guarded, c :: cs =>
    (if c = ':' ∧ guarded = false then (markerName cs).toList else []) ++ markersBehind (guardsColon c) cs

/-- The names of the markers in a text. -/
def markers (s : String) : List String := markersBehind false s.toList

/-! ## Separators -/

section

variable {c : Char} (hc : guardsColon c = false)

include hc

theorem not_isWordChar_of_separator : isWordChar c = false := by
  simp only [guardsColon, Bool.or_eq_false_iff] at hc
  exact hc.2

theorem ne_colon_of_separator : c ≠ ':' := by
  simp only [guardsColon, Bool.or_eq_false_iff, beq_eq_false_iff_ne] at hc
  exact hc.1.1

theorem takeWhile_append_separator (xs ys : List Char) :
    (xs ++ c :: ys).takeWhile isWordChar = xs.takeWhile isWordChar := by
  have hword := not_isWordChar_of_separator hc
  induction xs with
  | nil => simp [hword]
  | cons x xs ih => cases hx : isWordChar x <;> simp [hx, ih]

/-- A separator is no colon, so it does not matter that it stands behind a word. -/
theorem colon_behind_append_separator (xs ys : List Char) :
    ((xs ++ c :: ys).dropWhile isWordChar).head? = some ':' ↔
      (xs.dropWhile isWordChar).head? = some ':' := by
  have hword := not_isWordChar_of_separator hc
  have hcolon := ne_colon_of_separator hc
  induction xs with
  | nil => simp [hword, hcolon]
  | cons x xs ih => cases hx : isWordChar x <;> simp [hx, ih]

theorem markerName_append_separator (xs ys : List Char) : markerName (xs ++ c :: ys) = markerName xs := by
  simp only [markerName, takeWhile_append_separator hc, colon_behind_append_separator hc]

/-- A separator cuts a text into two that are read on their own. -/
theorem markersBehind_append_separator (guarded : Bool) (xs ys : List Char) :
    markersBehind guarded (xs ++ c :: ys) = markersBehind guarded xs ++ markersBehind false ys := by
  induction xs generalizing guarded with
  | nil =>
    have hcolon := ne_colon_of_separator hc
    simp [markersBehind, hcolon, hc]
  | cons x xs ih =>
    rw [List.cons_append, markersBehind, markersBehind, markerName_append_separator hc, ih, List.append_assoc]

end

/-- There is no marker without a colon. -/
theorem markersBehind_eq_nil {cs : List Char} (h : ':' ∉ cs) (guarded : Bool) :
    markersBehind guarded cs = [] := by
  induction cs generalizing guarded with
  | nil => rfl
  | cons c cs ih =>
    have hc : ¬(c = ':' ∧ guarded = false) := fun hc => h (hc.1 ▸ List.mem_cons_self)
    rw [markersBehind, if_neg hc, ih (List.not_mem_of_not_mem_cons h), List.append_nil]

theorem markers_eq_nil {s : String} (h : ':' ∉ s.toList) : markers s = [] := markersBehind_eq_nil h false

/-- The separators that statements are written with. -/
def separators : List Char := [' ', ',', '(', ')', '=', singleQuote]

theorem guardsColon_of_mem_separators {c : Char} (h : c ∈ separators) : guardsColon c = false := by
  have hall : separators.all (fun c => !guardsColon c) = true := by decide +kernel
  exact (Bool.not_eq_true' _).mp (List.all_eq_true.mp hall c h)

/-- A text without a colon that ends in a separator. -/
def Leads (lead : String) : Prop :=
  ':' ∉ lead.toList ∧ ∃ c ∈ lead.toList.getLast?, c ∈ separators

/-- A text without a colon that starts and ends in a separator. -/
def Connects (sep : String) : Prop :=
  Leads sep ∧ ∃ c ∈ sep.toList.head?, c ∈ separators

instance (lead : String) : Decidable (Leads lead) :=
  @instDecidableAnd _ _ _ (Option.decidableExistsMem ..)

instance (sep : String) : Decidable (Connects sep) :=
  @instDecidableAnd _ _ _ (Option.decidableExistsMem ..)

/-- What ends in a separator is read on its own. -/
theorem markers_append_of_last {s : String} {c : Char} (hlast : s.toList.getLast? = some c)
    (hc : guardsColon c = false) (t : String) : markers (s ++ t) = markers s ++ markers t := by
  obtain ⟨xs, hxs⟩ := List.getLast?_eq_some_iff.mp hlast
  have hs : markers s = markersBehind false xs := by
    rw [markers, hxs, markersBehind_append_separator hc]
    exact List.append_nil _
  rw [hs, markers, String.toList_append, hxs, List.append_assoc]
  exact markersBehind_append_separator hc false xs t.toList

theorem markers_lead {lead : String} (h : Leads lead) (t : String) : markers (lead ++ t) = markers t := by
  obtain ⟨hcolon, c, hlast, hc⟩ := h
  rw [markers_append_of_last hlast (guardsColon_of_mem_separators hc), markers_eq_nil hcolon, List.nil_append]

theorem markers_append {sep : String} (h : Connects sep) (s t : String) :
    markers (s ++ sep ++ t) = markers s ++ markers t := by
  obtain ⟨⟨hcolon, d, hlast, hd⟩, c, hhead, hc⟩ := h
  have hlast' : (s ++ sep).toList.getLast? = some d := by
    rw [String.toList_append, List.getLast?_append, Option.mem_def.mp hlast]
    rfl
  have hs : markers (s ++ sep) = markers s := by
    obtain ⟨cs, hcs⟩ := List.head?_eq_some_iff.mp hhead
    have hrest : ':' ∉ cs := fun h => hcolon (hcs ▸ List.mem_cons_of_mem c h)
    rw [markers, String.toList_append, hcs, markersBehind_append_separator (guardsColon_of_mem_separators hc),
      markersBehind_eq_nil hrest, List.append_nil]
    rfl
  rw [markers_append_of_last hlast' (guardsColon_of_mem_separators hd), hs]

theorem markers_close {sep : String} (h : Connects sep) (s : String) : markers (s ++ sep) = markers s := by
  have happend := markers_append h s ""
  rw [String.append_empty] at happend
  exact happend.trans (List.append_nil _)

theorem markers_intercalate {sep : String} (h : Connects sep) (ss : List String) :
    markers (sep.intercalate ss) = ss.flatMap markers := by
  induction ss with
  | nil => rfl
  | cons s ss ih =>
    rcases ss with _ | ⟨t, ts⟩
    · simp
    · rw [String.intercalate_cons_cons, markers_append h, ih]
      rfl

/-! ## Quoting -/

theorem guardsColon_singleQuote : guardsColon singleQuote = false :=
  guardsColon_of_mem_separators (by decide)

theorem takeWhile_doubleQuotes (cs : List Char) :
    (doubleQuotes cs).takeWhile isWordChar = cs.takeWhile isWordChar := by
  have hquote := not_isWordChar_of_separator guardsColon_singleQuote
  induction cs with
  | nil => rfl
  | cons c cs ih =>
    by_cases hc : c = singleQuote
    · subst hc
      rw [doubleQuotes_cons_quote, List.takeWhile_cons_of_neg (by simp [hquote]),
        List.takeWhile_cons_of_neg (by simp [hquote])]
    · rw [doubleQuotes_cons_of_ne hc]
      cases hw : isWordChar c <;> simp [hw, ih]

theorem head?_dropWhile_doubleQuotes (cs : List Char) :
    ((doubleQuotes cs).dropWhile isWordChar).head? = (cs.dropWhile isWordChar).head? := by
  have hquote := not_isWordChar_of_separator guardsColon_singleQuote
  induction cs with
  | nil => rfl
  | cons c cs ih =>
    by_cases hc : c = singleQuote
    · subst hc
      rw [doubleQuotes_cons_quote, List.dropWhile_cons_of_neg (by simp [hquote]),
        List.dropWhile_cons_of_neg (by simp [hquote])]
      rfl
    · rw [doubleQuotes_cons_of_ne hc]
      cases hw : isWordChar c <;> simp [hw, ih]

/-- Doubling quotes leaves the markers alone: a quote separates, once or twice. -/
theorem markersBehind_doubleQuotes (guarded : Bool) (cs : List Char) :
    markersBehind guarded (doubleQuotes cs) = markersBehind guarded cs := by
  induction cs generalizing guarded with
  | nil => rfl
  | cons c cs ih =>
    by_cases hc : c = singleQuote
    · subst hc
      have hskip (g : Bool) (ds : List Char) :
          markersBehind g (singleQuote :: ds) = markersBehind false ds :=
        markersBehind_append_separator guardsColon_singleQuote g [] ds
      rw [doubleQuotes_cons_quote, hskip, hskip, hskip, ih]
    · rw [doubleQuotes_cons_of_ne hc, markersBehind, markersBehind, ih]
      simp only [markerName, takeWhile_doubleQuotes, head?_dropWhile_doubleQuotes]

/-- A literal has the markers of its text. -/
theorem markers_enquote (s : String) : markers (enquote s) = markers s := by
  have hopen := markersBehind_append_separator guardsColon_singleQuote false []
  have hclose := markersBehind_append_separator guardsColon_singleQuote false (doubleQuotes s.toList) []
  rw [markers, enquote, String.toList_ofList, List.cons_append]
  refine (hopen _).trans ?_
  rw [hclose, markersBehind_doubleQuotes]
  exact List.append_nil _

/-! ## Statements -/

theorem markers_clause {lead sep : String} (hlead : Leads lead) (hsep : Connects sep) (ss : List String) :
    markers (if ss = [] then "" else lead ++ sep.intercalate ss) = ss.flatMap markers := by
  split
  · rename_i h
    rw [h]
    rfl
  · rw [markers_lead hlead, markers_intercalate hsep]

/-- The texts in a join. -/
def JoinOutline.parts (j : JoinOutline) : List String :=
  [upperText (orOther j.type "left"), j.table, orOther j.name j.table, j.condition]

/-- A join ends in a blank, so what comes behind it is read on its own. -/
theorem JoinOutline.markers_text_append (j : JoinOutline) (s : String) :
    markers (j.text ++ s) = j.parts.flatMap markers ++ markers s := by
  have hcondition : markers ((if j.condition = "" then "" else "ON " ++ j.condition ++ " ") ++ s) =
      markers j.condition ++ markers s := by
    split
    · rename_i h
      rw [String.empty_append, h]
      rfl
    · rw [markers_append (by decide), markers_lead (by decide)]
  unfold text parts
  rw [String.append_assoc]
  simp (disch := decide) only [markers_append, hcondition]
  simp only [List.flatMap_cons, List.flatMap_nil, List.append_nil, List.append_assoc]

namespace Outline

variable (o : Outline)

/-- The texts in a statement of a kind. -/
def parts : StatementKind → List String
  | .select =>
    o.fields ++ o.tables.flatMap (fun t => [t.2, t.1]) ++ o.joins.flatMap JoinOutline.parts ++
      o.predicates ++ o.groups ++ o.orders
  | .insert | .insertSelect | .replace =>
    o.target :: (o.insertions.map Prod.fst ++ o.insertions.map Prod.snd)
  | .update => o.target :: (o.updates.flatMap (fun u => [u.1, u.2]) ++ o.predicates)
  | .delete => o.target :: o.predicates

theorem markers_fieldsText : markers o.fieldsText = o.fields.flatMap markers := by
  unfold fieldsText
  split
  · rename_i h
    rw [h]
    decide
  · exact markers_intercalate (by decide) o.fields

theorem markers_tablesText :
    markers o.tablesText = (o.tables.flatMap fun t => [t.2, t.1]).flatMap markers := by
  rw [tablesText, markers_intercalate (by decide), List.flatMap_map, List.flatMap_assoc]
  refine List.flatMap_congr fun t _ => ?_
  simp (disch := decide) only [markers_close, markers_append, markers_lead]
  simp

theorem markers_joinsText : markers o.joinsText = (o.joins.flatMap JoinOutline.parts).flatMap markers := by
  rw [joinsText, List.flatMap_assoc]
  induction o.joins with
  | nil => rfl
  | cons j js ih =>
    have hjoins : "".intercalate ((j :: js).map JoinOutline.text) =
        j.text ++ "".intercalate (js.map JoinOutline.text) := by
      cases js <;> simp [String.intercalate_cons_cons]
    rw [hjoins, j.markers_text_append, ih, List.flatMap_cons]

theorem markers_predicatesText : markers o.predicatesText = o.predicates.flatMap markers :=
  markers_clause (by decide) (by decide) o.predicates

theorem markers_groupsText : markers o.groupsText = o.groups.flatMap markers :=
  markers_clause (by decide) (by decide) o.groups

theorem markers_ordersText : markers o.ordersText = o.orders.flatMap markers :=
  markers_clause (by decide) (by decide) o.orders

theorem markers_limitText : markers o.limitText = [] := by
  unfold limitText
  split
  · have hdigits : ':' ∉ (integerText o.limit).toList := by
      rw [integerText, String.toList_ofList]
      exact (isNumeral_integerChars o.limit).not_mem (by decide)
    rw [markers_lead (by decide), markers_eq_nil hdigits]
  · rfl

theorem markers_selectText : markers o.selectText = (o.parts .select).flatMap markers := by
  unfold selectText
  simp (disch := decide) only [markers_append, markers_lead, markers_fieldsText,
    markers_tablesText, markers_joinsText, markers_predicatesText, markers_groupsText, markers_ordersText,
    markers_limitText, List.append_nil, parts, List.flatMap_append]

theorem markers_valuesText {verb : String} (hverb : ':' ∉ verb.toList) :
    markers (o.valuesText verb) = (o.parts .insert).flatMap markers := by
  unfold valuesText
  simp (disch := decide) only [markers_close, markers_append, markers_intercalate,
    markers_eq_nil hverb, List.nil_append, List.append_assoc, parts, List.flatMap_cons, List.flatMap_append]

theorem markers_updateText : markers o.updateText = (o.parts .update).flatMap markers := by
  have hitems : (o.updates.map fun u => u.1 ++ " = " ++ u.2).flatMap markers =
      (o.updates.flatMap fun u => [u.1, u.2]).flatMap markers := by
    rw [List.flatMap_map, List.flatMap_assoc]
    refine List.flatMap_congr fun u _ => ?_
    rw [markers_append (by decide)]
    simp
  unfold updateText
  simp (disch := decide) only [markers_append, markers_lead, markers_intercalate,
    markers_predicatesText, hitems, List.append_assoc, parts, List.flatMap_cons, List.flatMap_append]

theorem markers_deleteText : markers o.deleteText = (o.parts .delete).flatMap markers := by
  unfold deleteText
  simp (disch := decide) only [markers_append, markers_lead, markers_predicatesText,
    markers_limitText, List.append_nil, parts, List.flatMap_cons]

/-- A statement has the markers of its parts. -/
theorem markers_text (k : StatementKind) : markers (o.text k) = (o.parts k).flatMap markers := by
  cases k with
  | select => exact o.markers_selectText
  | insert | insertSelect | replace => exact o.markers_valuesText (by decide)
  | update => exact o.markers_updateText
  | delete => exact o.markers_deleteText

end Outline

/-! ## Values -/

/-- The markers that the text of a value brings along. A keyword or a number has none. -/
def Value.textMarkers (v : Value) : List String := if v.isTextual then markers v.plainText else []

theorem Value.markers_literal {v : Value} (hv : v.Writable) : markers v.literal = v.textMarkers := by
  have hquote := quote_eq_literal hv
  rw [textMarkers]
  split
  · rename_i htextual
    rw [quote_of_textual htextual, shown_eq_plainText hv, map_ok] at hquote
    rw [← Except.ok.inj hquote, markers_enquote]
  · rename_i htextual
    exact markers_eq_nil ((isNumeral_of_quote (Bool.eq_false_iff.mpr htextual) hquote).not_mem (by decide))

end SqlDraft
