import SqlDraft.Number.DecimalNumber

/-!
# Numbers in lowest decimal terms

Every finite number, binary or decimal, is an integer times a power of ten. Two of them are equal if
their lowest terms are, and lowest terms are as short as the numbers are written: no power of ten is
multiplied out.

* `Scaled`: an integer times a power of ten.
* `dropZeros`: a natural number without the zeros at its end, and their number.
* `Scaled.lowest`: the lowest terms; the integer is no multiple of ten, unless it is zero.
* `Binary64.scaled?`, `DecimalNumber.scaled?`: a finite number in this form.
-/

namespace SqlDraft

/-- The number `coefficient · 10^exponent`. -/
structure Scaled where
  coefficient : Int
  exponent : Int
  deriving DecidableEq

/-- A natural number without the zeros at its end, and how many they are. -/
def dropZeros (n : Nat) : Nat × Nat :=
  if 0 < n ∧ n % 10 = 0 then
    let shorter := dropZeros (n / 10)
    (shorter.1, shorter.2 + 1)
  else (n, 0)
termination_by n
decreasing_by omega

namespace Scaled

/-- Zero. -/
def zero : Scaled := ⟨0, 0⟩

/-- The lowest terms of a number. -/
def lowest (x : Scaled) : Scaled :=
  if x.coefficient = 0 then zero
  else
    let (n, zeros) := dropZeros x.coefficient.natAbs
    ⟨Binary64.signed (x.coefficient < 0) n, x.exponent + zeros⟩

/-- Whether two numbers are equal. -/
def equals (x y : Scaled) : Bool := x.lowest == y.lowest

end Scaled

/-- A finite number times a power of ten: a half is five tenths. -/
def Binary64.scaled? (x : Binary64) : Option Scaled :=
  match x.form with
  | .finite negative m q =>
    some (if 0 ≤ q then ⟨signed negative (m * Nat.pow 2 q.toNat), 0⟩
      else ⟨signed negative (m * Nat.pow 5 (-q).toNat), q⟩)
  | _ => none

/-- A finite number as it is written. -/
def DecimalNumber.scaled? : DecimalNumber → Option Scaled
  | finite negative coefficient exponent => some ⟨Binary64.signed negative coefficient, exponent⟩
  | _ => none

end SqlDraft
