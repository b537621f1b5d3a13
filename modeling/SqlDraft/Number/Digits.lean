import SqlDraft.Fault

/-!
# Decimal digits of integers

* `decimalDigits`: the digits of a natural number, most significant first.
* `digitLimit`: how many digits an integer may have that is read from a text or written to one.
* `integerChars`, `integerText`: an integer in decimal.
* `signedText`: an integer in decimal, if it has not too many digits.
-/

namespace SqlDraft

/-- The decimal digits of a natural number, most significant first. -/
def decimalDigits (n : Nat) : List Char := Nat.toDigits 10 n

/-- How many digits an integer may have that is read from a text or written to one. -/
def digitLimit : Nat := 4300

/-- An integer in decimal. -/
def integerChars : Int → List Char
  | .ofNat n => decimalDigits n
  | .negSucc n => '-' :: decimalDigits (n + 1)

/-- An integer in decimal, as a text. -/
def integerText (i : Int) : String := String.ofList (integerChars i)

/-- Whether an integer can be read or written. -/
def withinDigitLimit (i : Int) : Bool := (decimalDigits i.natAbs).length ≤ digitLimit

/-- An integer in decimal, if it has not too many digits. -/
def signedText (i : Int) : Except Fault String :=
  if withinDigitLimit i then .ok (integerText i) else .error (.tooManyDigits none)

/-- Leading zeros up to a width. -/
def zeroPadded (width : Nat) (cs : List Char) : List Char :=
  List.replicate (width - cs.length) '0' ++ cs

/-- A natural number in decimal, with leading zeros up to a width. -/
def paddedNat (width n : Nat) : String := String.ofList (zeroPadded width (decimalDigits n))

theorem signedText_eq_ok_iff (i : Int) (s : String) :
    signedText i = .ok s ↔ withinDigitLimit i = true ∧ integerText i = s := by
  unfold signedText
  split <;> simp_all

end SqlDraft
