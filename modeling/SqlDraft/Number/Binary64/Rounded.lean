import SqlDraft.Number.Binary64.Shortest

/-!
# Binary numbers with a given number of digits

The exact value of the number is rounded to the last digit that is written; a tie goes to the even
digit.

* `fixedChars`: a given number of digits after the point.
* `exponentialChars`: one digit before the point, a given number after it, and an exponent.
* `generalChars`: a given number of digits in all, with an exponent where the number is very large or
  very small.
* `Binary64.realChars`: a number in one of these styles.
-/

namespace SqlDraft

/-- How a number is written with a given number of digits. -/
inductive RealStyle
  | fixed | exponential | general
  deriving DecidableEq

/-- A number with a point, which is left out before nothing unless it is kept. -/
def pointed (keepsPoint : Bool) (whole part : List Char) : List Char :=
  if part = [] ∧ !keepsPoint then whole else whole ++ '.' :: part

/-- The number `m · 2^q` in units of `10^s`, rounded. -/
def roundedMultiple (m : Nat) (q s : Int) : Nat :=
  Binary64.roundQuotient (m * Nat.pow 2 q.toNat * Nat.pow 10 (-s).toNat)
    (Nat.pow 2 (-q).toNat * Nat.pow 10 s.toNat)

/-- The number `m · 2^q` with `places` digits after the point. -/
def fixedChars (keepsPoint : Bool) (places m : Nat) (q : Int) : List Char :=
  let ds := zeroPadded (places + 1) (decimalDigits (roundedMultiple m q (-places)))
  pointed keepsPoint (ds.take (ds.length - places)) (ds.drop (ds.length - places))

/-- The first `count` digits of the number `m · 2^q`, with the place of the point. -/
def leadingFigures (count m : Nat) (q : Int) : List Char × Int :=
  if m = 0 then (List.replicate count '0', 1)
  else
    let point := Neighbourhood.decimalPoint (m * Nat.pow 2 q.toNat) (Nat.pow 2 (-q).toNat)
    let ds := decimalDigits (roundedMultiple m q (point - count))
    if ds.length > count then (ds.take count, point + 1) else (ds, point)

/-- The exponent of a number whose point stands at `point`, with at least two digits. -/
def exponentSuffix (point : Int) : List Char := 'e' :: exponentChars 2 (point - 1)

/-- The number `m · 2^q` with one digit before the point and `places` after it. -/
def exponentialChars (keepsPoint : Bool) (places m : Nat) (q : Int) : List Char :=
  let (ds, point) := leadingFigures (places + 1) m q
  pointed keepsPoint (ds.take 1) (ds.drop 1) ++ exponentSuffix point

/-- The number `m · 2^q` with `count` digits, an exponent below a ten-thousandth and where the digits
end before the point. The zeros at the end are dropped unless the point is kept. -/
def generalChars (keepsPoint : Bool) (count m : Nat) (q : Int) : List Char :=
  let count := max 1 count
  let (ds, point) := leadingFigures count m q
  let trim := if keepsPoint then id else dropTrailingZeros
  if -3 ≤ point ∧ point ≤ count then
    let (whole, part) := placePoint ds point
    pointed keepsPoint (orZero whole) (trim part)
  else pointed keepsPoint (ds.take 1) (trim (ds.drop 1)) ++ exponentSuffix point

/-- The number `m · 2^q` in a style. -/
def RealStyle.chars : RealStyle → (keepsPoint : Bool) → (digits m : Nat) → (q : Int) → List Char
  | fixed => fixedChars
  | exponential => exponentialChars
  | general => generalChars

/-- A number in a style. -/
def Binary64.realChars (n : RealStyle) (keepsPoint : Bool) (digits : Nat) (x : Binary64) :
    List Char :=
  match x.form with
  | .nan => ['n', 'a', 'n']
  | .infinite negative => signChars negative ++ ['i', 'n', 'f']
  | .finite negative m q => signChars negative ++ n.chars keepsPoint digits m q

end SqlDraft
