import SqlDraft.Template.Directive

/-!
# Fields

A directive writes its text into a field: a text that is shorter than the field is filled up with blanks
before or after it, or with zeros behind its sign and mark.

* `Frame`: the flags of a directive with its width and precision.
* `FieldText`: a text with its sign and the mark of its base.
* `FieldText.laid`: the text in its field.
-/

namespace SqlDraft

/-- How a directive writes. A width of zero leaves every text as it is. -/
structure Frame where
  flags : Flags
  width : Nat
  precision : Option Nat

/-- A text to be laid into a field. -/
structure FieldText where
  sign : List Char
  /-- What marks the base of a number. -/
  mark : List Char
  body : List Char
  /-- Whether the field is filled up with zeros. -/
  zeros : Bool

namespace FieldText

/-- A text without a sign. -/
def plain (cs : List Char) : FieldText := ⟨[], [], cs, false⟩

/-- The whole text. -/
def chars (t : FieldText) : List Char := t.sign ++ t.mark ++ t.body

/-- The text in a field. -/
def laid (t : FieldText) (left : Bool) (width : Nat) : List Char :=
  let missing := width - t.chars.length
  if left then t.chars ++ List.replicate missing ' '
  else if t.zeros then t.sign ++ t.mark ++ List.replicate missing '0' ++ t.body
  else List.replicate missing ' ' ++ t.chars

theorem laid_of_le {t : FieldText} {width : Nat} (h : width ≤ t.chars.length) (left : Bool) :
    t.laid left width = t.chars := by
  have : width - t.chars.length = 0 := by omega
  unfold laid
  simp only [this, List.replicate_zero, List.append_nil, List.nil_append]
  split
  · rfl
  · split <;> simp [chars]

end FieldText

/-- The sign of a number: a minus sign, or what the flags ask for instead of none. -/
def signFor (flags : Flags) (negative : Bool) : List Char :=
  if negative then ['-'] else if flags.plus then ['+'] else if flags.blank then [' '] else []

end SqlDraft
