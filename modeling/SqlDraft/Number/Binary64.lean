import SqlDraft.Number.Digits

/-!
# Binary floating-point numbers

Numbers of the 64-bit binary format, as their bits.

* `Binary64.Form`: what the bits stand for: no number, an infinity, or `± m · 2^q`.
* `Binary64.form`: the reading of the bits.
* `Binary64.ofRatio`, `ofInteger`, `ofBoundedInteger`, `ofDecimal`: the number nearest to a quotient, an integer
  or a decimal; a tie goes to the even significand.
* `Binary64.isZero`, `isPositive`, `truncate?`: the sign, and the integer towards zero.
-/

namespace SqlDraft

/-- A number of the 64-bit binary format. -/
structure Binary64 where
  bits : UInt64
  deriving DecidableEq

namespace Binary64

/-- What the bits of a number stand for. -/
inductive Form
  | nan
  | infinite (negative : Bool)
  /-- The number `m · 2^q`, or its negative. -/
  | finite (negative : Bool) (m : Nat) (q : Int)
  deriving DecidableEq

/-- Binary digits after the point of a significand. -/
def fractionBits : Nat := 52

/-- The least exponent `q`. -/
def leastExponent : Int := -1074

/-- The largest exponent `q`. -/
def largestExponent : Int := 971

/-- The reading of the bits: a sign, eleven bits of exponent, and the significand. -/
def form (x : Binary64) : Form :=
  let n := x.bits.toNat
  let negative := n ≥ Nat.pow 2 63
  let e : Nat := n / Nat.pow 2 fractionBits % Nat.pow 2 11
  let f : Nat := n % Nat.pow 2 fractionBits
  if e = 2047 then if f = 0 then .infinite negative else .nan
  else if e = 0 then .finite negative f leastExponent
  else .finite negative (f + Nat.pow 2 fractionBits) (leastExponent + ((e - 1 : Nat) : Int))

/-- The sign bit. -/
def signBits (negative : Bool) : Nat := if negative then Nat.pow 2 63 else 0

/-- An infinity. -/
def infinity (negative : Bool) : Binary64 :=
  ⟨UInt64.ofNat (signBits negative + 2047 * Nat.pow 2 fractionBits)⟩

/-- The quiet value that is no number. -/
def nan : Binary64 := ⟨UInt64.ofNat (2047 * Nat.pow 2 fractionBits + Nat.pow 2 51)⟩

/-- Zero, with its sign. -/
def zero (negative : Bool) : Binary64 := ⟨UInt64.ofNat (signBits negative)⟩

/-- The number `m · 2^q` for a significand that fits the format. -/
def ofScaled (negative : Bool) (m : Nat) (q : Int) : Binary64 :=
  if m < Nat.pow 2 fractionBits then ⟨UInt64.ofNat (signBits negative + m)⟩
  else ⟨UInt64.ofNat (signBits negative + (q - leastExponent).toNat * Nat.pow 2 fractionBits + m)⟩

/-- The quotient of two natural numbers, rounded to the nearest integer, a tie to the even one. -/
def roundQuotient (n d : Nat) : Nat :=
  let k := n / d
  let r := n % d
  if 2 * r < d then k else if d < 2 * r then k + 1 else if k % 2 = 0 then k else k + 1

/-- The quotient `n / (d · 2^q)`, rounded. -/
def roundScaled (n d : Nat) (q : Int) : Nat :=
  roundQuotient (n * Nat.pow 2 (-q).toNat) (d * Nat.pow 2 q.toNat)

/-- The exponent at which the quotient of `n` by `d` fills the significand, if it can. -/
def ratioExponent (n d : Nat) : Int :=
  let q : Int := (Nat.log2 n : Int) - Nat.log2 d - 53
  let q := if n * Nat.pow 2 (-q).toNat / (d * Nat.pow 2 q.toNat) < Nat.pow 2 53 then q else q + 1
  max q leastExponent

/-- The number nearest to the quotient of `n` by `d`, or an infinity beyond the largest. -/
def ofRatio (negative : Bool) (n d : Nat) : Binary64 :=
  if n = 0 then zero negative
  else
    let q := ratioExponent n d
    let m := roundScaled n d q
    let (m, q) := if m = Nat.pow 2 53 then (Nat.pow 2 52, q + 1) else (m, q)
    if q > largestExponent then infinity negative else ofScaled negative m q

/-- The number nearest to `± coefficient · 10^exponent`. A point further than 400 places from the
digits is beyond both ends of the format. -/
def ofDecimal (negative : Bool) (coefficient : Nat) (exponent : Int) : Binary64 :=
  let point : Int := exponent + (decimalDigits coefficient).length
  if coefficient = 0 ∨ point < -400 then zero negative
  else if point > 400 then infinity negative
  else ofRatio negative (coefficient * Nat.pow 10 exponent.toNat) (Nat.pow 10 (-exponent).toNat)

/-- The number nearest to an integer, or an infinity beyond the largest. -/
def ofInteger (i : Int) : Binary64 := ofRatio (i < 0) i.natAbs 1

/-- The number nearest to an integer, if the integer is not too large. -/
def ofBoundedInteger (i : Int) : Except Fault Binary64 :=
  let x := ofInteger i
  match x.form with
  | .infinite _ => .error .integerTooLarge
  | _ => .ok x

/-- Either zero. -/
def isZero (x : Binary64) : Bool :=
  match x.form with
  | .finite _ m _ => m == 0
  | _ => false

/-- A number above zero; the value that is no number is none. -/
def isPositive (x : Binary64) : Bool :=
  match x.form with
  | .finite negative m _ => !negative && m != 0
  | .infinite negative => !negative
  | .nan => false

/-- The natural number `m · 2^q` without its fraction. -/
def wholePart (m : Nat) (q : Int) : Nat := m * Nat.pow 2 q.toNat / Nat.pow 2 (-q).toNat

/-- A natural number with a sign. -/
def signed (negative : Bool) (n : Nat) : Int := if negative then -(n : Int) else n

/-- The integer towards zero. -/
def truncate (x : Binary64) : Except Fault Int :=
  match x.form with
  | .nan => .error (.undefinedInteger .float)
  | .infinite _ => .error (.infiniteInteger .float)
  | .finite negative m q => .ok (signed negative (wholePart m q))

end Binary64

end SqlDraft
