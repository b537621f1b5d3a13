import SqlDraft.Proofs.Unescaped

/-!
# Taking colours off

The codes of the colours can be taken off a text again. What a directive writes of a level name in colour is then
what it writes of the level name, if it does not cut the codes and has no need to fill up its field.

* `colourCodes`, `dropCodes`, `withoutCodes`: the codes, and a text without them.
* `dropCodes_append`, `dropCodes_code`: texts without escapes stay, codes go.
* `IsColoured`, `isColoured`: what a level with a colour has in common with the others.
* `Strips`: a text in colour, whatever stands behind it.
* `EndsAlike`, `Tints`: texts that end their lines alike, and those of which one is the other in colour.
* `IsColoured.tints_field`: the name of a level in its field.
-/

namespace SqlDraft

/-! ## Codes -/

/-- The names of the levels that have a colour. -/
def colouredNames : List String := ["DEBUG", "INFO", "WARNING", "ERROR", "CRITICAL"]

/-- The codes that a formatter with colours writes: those of the levels, and the one that ends a colour. -/
def colourCodes : List (List Char) := (colouredNames.filterMap colourOf? ++ [plainCode]).map String.toList

/-- A text without codes, behind some characters that belong to a code. -/
def dropCodes : Nat → List Char → List Char
  | _, [] => []
  | n + 1, _ :: cs => dropCodes n cs
  | 0, c :: cs =>
    match colourCodes.find? fun code => code.isPrefixOf (c :: cs) with
    | some code => dropCodes (code.length - 1) cs
    | none => c :: dropCodes 0 cs

/-- A text without codes. -/
def withoutCodes (s : String) : String := String.ofList (dropCodes 0 s.toList)

theorem plainCode_mem : plainCode.toList ∈ colourCodes := by decide

/-- Every code starts with an escape character. -/
theorem head?_colourCodes : ∀ code ∈ colourCodes, code.head? = some escapeMark := by decide

theorem dropCodes_cons_of_ne {c : Char} (hc : c ≠ escapeMark) (cs : List Char) :
    dropCodes 0 (c :: cs) = c :: dropCodes 0 cs := by
  have hnone : colourCodes.find? (fun code => code.isPrefixOf (c :: cs)) = none := by
    rw [List.find?_eq_none]
    intro code hcode hprefix
    have hhead := head?_colourCodes code hcode
    cases code with
    | nil => cases hhead
    | cons d ds =>
      cases hhead
      rw [List.isPrefixOf, Bool.and_eq_true, beq_iff_eq] at hprefix
      exact hc hprefix.1.symm
  rw [dropCodes, hnone]

/-- A text without escapes stays. -/
theorem dropCodes_append {cs : List Char} (h : Unescaped cs) (ds : List Char) :
    dropCodes 0 (cs ++ ds) = cs ++ dropCodes 0 ds := by
  induction cs with
  | nil => rfl
  | cons c cs ih =>
    obtain ⟨hc, hcs⟩ := Unescaped.cons_iff.mp h
    rw [List.cons_append, dropCodes_cons_of_ne hc, ih hcs]
    rfl

/-- A code goes. -/
theorem dropCodes_code {code : List Char} (h : code ∈ colourCodes) (ds : List Char) :
    dropCodes 0 (code ++ ds) = dropCodes 0 ds := by
  have hcodes : colourCodes = ["36", "32", "33", "31", "35", "0"].map fun n => (terminalCode n).toList := by
    decide
  rw [hcodes] at h
  simp only [List.map_cons, List.map_nil, List.mem_cons, List.not_mem_nil, or_false] at h
  rcases h with rfl | rfl | rfl | rfl | rfl | rfl <;> rfl

/-- A level with a colour: its name, and the code of the colour. -/
structure IsColoured (name colour : String) : Prop where
  code : colour.toList ∈ colourCodes
  length : colour.toList.length = 5
  unescaped : Unescaped name.toList
  /-- No single character writes the name. -/
  long : 1 < name.toList.length
  closed : endsLine name.toList = false
  quote : quoteMark name.toList = singleQuote
  quoteInColour : quoteMark (inColour colour name).toList = singleQuote

theorem isColoured {name colour : String} (h : colourOf? name = some colour) : IsColoured name colour := by
  unfold colourOf? at h
  split at h <;> cases h <;> constructor <;> decide

/-! ## Texts in colour -/

/-- A text that is another one but for codes, whatever stands behind it. -/
def Strips (cs' cs : List Char) : Prop := ∀ ds, dropCodes 0 (cs' ++ ds) = cs ++ dropCodes 0 ds

namespace Strips

variable {cs cs' ds ds' : List Char}

theorem of_unescaped (h : Unescaped cs) : Strips cs cs := dropCodes_append h

theorem of_code (h : cs ∈ colourCodes) : Strips cs [] := dropCodes_code h

theorem append (hc : Strips cs' cs) (hd : Strips ds' ds) : Strips (cs' ++ ds') (cs ++ ds) := by
  intro es
  rw [List.append_assoc, hc, hd, List.append_assoc]

theorem withoutCodes_eq (h : Strips cs' cs) : withoutCodes (String.ofList cs') = String.ofList cs := by
  have hnil := h []
  rw [List.append_nil] at hnil
  rw [withoutCodes, String.toList_ofList, hnil, dropCodes, List.append_nil]

end Strips

/-! ## Ends of lines -/

/-- Texts that end a line alike, behind whatever texts that do. -/
def EndsAlike (cs' cs : List Char) : Prop :=
  ∀ ds' ds, endsLine ds' = endsLine ds → endsLine (ds' ++ cs') = endsLine (ds ++ cs)

theorem endsLine_append {cs : List Char} (h : cs ≠ []) (ds : List Char) : endsLine (ds ++ cs) = endsLine cs := by
  rw [endsLine, List.getLast?_append, List.getLast?_eq_some_getLast h, Option.some_or, endsLine,
    List.getLast?_eq_some_getLast h]

namespace EndsAlike

variable {cs cs' ds ds' : List Char}

theorem of_ne_nil (hcs' : cs' ≠ []) (hcs : cs ≠ []) (h : endsLine cs' = endsLine cs) : EndsAlike cs' cs := by
  intro ds' ds _
  rw [endsLine_append hcs', endsLine_append hcs, h]

theorem refl (cs : List Char) : EndsAlike cs cs := by
  cases cs with
  | nil => exact fun ds' ds h => by rw [List.append_nil, List.append_nil, h]
  | cons c cs => exact of_ne_nil (List.cons_ne_nil c cs) (List.cons_ne_nil c cs) rfl

theorem append (hc : EndsAlike cs' cs) (hd : EndsAlike ds' ds) : EndsAlike (cs' ++ ds') (cs ++ ds) := by
  intro es' es h
  rw [← List.append_assoc, ← List.append_assoc]
  exact hd _ _ (hc _ _ h)

theorem endsLine_eq (h : EndsAlike cs' cs) : endsLine cs' = endsLine cs := h [] [] rfl

end EndsAlike

/-- A text that is another one but for codes, and ends its line alike. -/
structure Tints (cs' cs : List Char) : Prop where
  strips : Strips cs' cs
  ends : EndsAlike cs' cs

namespace Tints

variable {cs cs' ds ds' : List Char}

theorem of_unescaped (h : Unescaped cs) : Tints cs cs := ⟨.of_unescaped h, .refl cs⟩

theorem append (hc : Tints cs' cs) (hd : Tints ds' ds) : Tints (cs' ++ ds') (cs ++ ds) :=
  ⟨hc.strips.append hd.strips, hc.ends.append hd.ends⟩

theorem withoutCodes_eq {s' s : String} (h : Tints s'.toList s.toList) : withoutCodes s' = s := by
  have hstrips := h.strips.withoutCodes_eq
  rwa [String.ofList_toList, String.ofList_toList] at hstrips

/-- A text without escapes below a text in colour. -/
theorem below {s' s t : String} (h : Tints s'.toList s.toList) {v : Value} (hv : v.Unescaped)
    (ht : below s v = .ok t) : ∃ t', SqlDraft.below s' v = .ok t' ∧ Tints t'.toList t.toList := by
  unfold SqlDraft.below at ht ⊢
  split at ht
  · rename_i htruthy
    rw [if_pos htruthy]
    cases v with
    | text u =>
      cases ht
      have hu : Tints u.toList u.toList := .of_unescaped (hv u rfl)
      have hline : Tints "\n".toList "\n".toList := .of_unescaped (by decide)
      refine ⟨_, rfl, ?_⟩
      rw [h.ends.endsLine_eq, String.toList_append, String.toList_append]
      refine Tints.append ?_ hu
      split
      · exact h
      · rw [String.toList_append, String.toList_append]
        exact h.append hline
    | _ => cases ht
  · rename_i habsent
    cases ht
    exact ⟨s', if_neg habsent, h⟩

end Tints

theorem toList_inColour (colour name : String) :
    (inColour colour name).toList = colour.toList ++ name.toList ++ plainCode.toList := by
  rw [inColour, String.toList_append, String.toList_append]

theorem length_plainCode : plainCode.toList.length = 4 := by decide

/-! ## Fields -/

theorem textField_of_cut {frame : Frame} {p : Nat} (h : frame.precision = some p) (cs : List Char) :
    textField frame cs = .plain (cs.take p) := by
  rw [textField, h]

theorem textField_of_whole {frame : Frame} (h : frame.precision = none) (cs : List Char) :
    textField frame cs = .plain cs := by
  rw [textField, h]

/-- A text that fills its field is written as it is. -/
theorem laid_plain {cs : List Char} {width : Nat} (h : width ≤ cs.length) (left : Bool) :
    (FieldText.plain cs).laid left width = cs := FieldText.laid_of_le (t := .plain cs) h left

/-- A level name in colour, in a field that its name fills and a precision that cuts at most the last code. -/
theorem IsColoured.tints_field {name colour : String} (h : IsColoured name colour) {frame : Frame}
    (hwidth : frame.width ≤ name.toList.length)
    (hprecision : ∀ p, frame.precision = some p → p = name.toList.length + 5 ∨ name.toList.length + 9 ≤ p)
    (left : Bool) :
    Tints ((textField frame (inColour colour name).toList).laid left frame.width)
      ((textField frame name.toList).laid left frame.width) := by
  have hlong := h.long
  have hname : name.toList ≠ [] := List.ne_nil_of_length_pos (by omega)
  have hcode : Tints (colour.toList ++ name.toList) name.toList :=
    ⟨(Strips.of_code h.code).append (.of_unescaped h.unescaped),
      .of_ne_nil (List.append_ne_nil_of_right_ne_nil _ hname) hname (endsLine_append hname _)⟩
  have hcodes : Tints (colour.toList ++ name.toList ++ plainCode.toList) name.toList := by
    have hplain : plainCode.toList ≠ [] := by decide
    refine ⟨by simpa using hcode.strips.append (.of_code plainCode_mem), .of_ne_nil ?_ hname ?_⟩
    · exact List.append_ne_nil_of_right_ne_nil _ hplain
    · rw [endsLine_append hplain, h.closed]
      decide
  have hlength : (colour.toList ++ name.toList).length = name.toList.length + 5 := by
    rw [List.length_append, h.length, Nat.add_comm]
  have hlengths : (colour.toList ++ name.toList ++ plainCode.toList).length = name.toList.length + 9 := by
    rw [List.length_append, hlength, length_plainCode]
  rw [toList_inColour]
  cases hcut : frame.precision with
  | none =>
    rw [textField_of_whole hcut, textField_of_whole hcut, laid_plain hwidth, laid_plain (by omega)]
    exact hcodes
  | some p =>
    rw [textField_of_cut hcut, textField_of_cut hcut]
    rcases hprecision p hcut with rfl | hp
    · rw [← hlength, List.take_left, List.take_of_length_le (by omega), laid_plain hwidth,
        laid_plain (by omega)]
      exact hcode
    · rw [List.take_of_length_le (by omega), List.take_of_length_le (by omega), laid_plain hwidth,
        laid_plain (by omega)]
      exact hcodes

end SqlDraft
