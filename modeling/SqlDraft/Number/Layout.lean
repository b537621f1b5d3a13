import SqlDraft.Number.Digits

/-!
# Layouts of decimal numbers

A positive number is given by its digits `d₁d₂…` and the place of its point: `0.d₁d₂… · 10^point`.

* `placePoint`: the digits before and after the point, filled up with zeros.
* `positional`: the number without exponent.
* `exponentChars`: a signed exponent with a least number of digits.
* `scientific`: one digit before the point, and an exponent.
-/

namespace SqlDraft

/-- The digits before and after a point, with zeros where the digits do not reach it. Nothing stands
before a point that is left of all digits. -/
def placePoint (ds : List Char) (point : Int) : List Char × List Char :=
  let p := point.toNat
  if point ≤ 0 then ([], List.replicate (-point).toNat '0' ++ ds)
  else (ds.take p ++ List.replicate (p - ds.length) '0', ds.drop p)

/-- A list of digits, or a single zero for none. -/
def orZero : List Char → List Char
  | [] => ['0']
  | ds => ds

/-- A number without exponent; the point stands only before further digits. -/
def positional (ds : List Char) (point : Int) : List Char :=
  match placePoint ds point with
  | (whole, []) => orZero whole
  | (whole, part) => orZero whole ++ '.' :: part

/-- An exponent with its sign and at least `width` digits. -/
def exponentChars (width : Nat) (e : Int) : List Char :=
  (if e < 0 then '-' else '+') :: zeroPadded width (decimalDigits e.natAbs)

/-- One digit before the point, and an exponent after the mark `mark`. -/
def scientific (mark : Char) (width : Nat) (ds : List Char) (point : Int) : List Char :=
  positional ds 1 ++ mark :: exponentChars width (point - 1)

end SqlDraft
