import SqlDraft.Number.Binary64
import SqlDraft.Number.Layout

/-!
# The shortest decimal text of a binary number

The text has the fewest digits that read back as the number, and of those the digits nearest to it.

* `Neighbourhood`: a positive number and the numbers that round to it, as quotients.
* `decimalPoint`: the place of the point of a positive quotient.
* `Neighbourhood.digitsAt`: the digits of a given count that read back, if there are any.
* `Binary64.shortest`: digits and point of `m · 2^q`.
* `Binary64.text`: the text, without exponent from `0.0001` to below `10^16`.
-/

namespace SqlDraft

/-- A positive number `value / unit` and the ends of the interval of numbers that round to it. The ends
belong to the interval if `closed`. -/
structure Neighbourhood where
  low : Nat
  value : Nat
  high : Nat
  unit : Nat
  closed : Bool

namespace Neighbourhood

/-- The neighbourhood of `m · 2^q`. Below a power of two the next number is half as far. -/
def ofScaled (m : Nat) (q : Int) : Neighbourhood :=
  let scale := Nat.pow 2 (q - 2).toNat
  let below := if m = Nat.pow 2 Binary64.fractionBits ∧ q > Binary64.leastExponent then 1 else 2
  { low := (4 * m - below) * scale
    value := 4 * m * scale
    high := (4 * m + 2) * scale
    unit := Nat.pow 2 (2 - q).toNat
    closed := m % 2 == 0 }

/-- Whether a quotient lies in the interval. -/
def holds (h : Neighbourhood) (n d : Nat) : Bool :=
  let low := h.low * d
  let high := h.high * d
  let x := n * h.unit
  if h.closed then low ≤ x && x ≤ high else low < x && x < high

/-- The place of the point of a positive quotient: `10^(point - 1) ≤ n / d < 10^point`. -/
def decimalPoint (n d : Nat) : Int :=
  if d ≤ n then ((decimalDigits (n / d)).length : Int)
  else
    let c := (decimalDigits (d / n)).length
    if d ≤ n * Nat.pow 10 (c - 1) then 2 - (c : Int) else 1 - (c : Int)

/-- The multiple of `10^s` that lies in the interval: of the two neighbours of the value on that grid
the one that lies in it, of both the nearer, of two equally near the even one. -/
def multipleAt (h : Neighbourhood) (s : Int) : Option Nat :=
  let n := h.value * Nat.pow 10 (-s).toNat
  let d := h.unit * Nat.pow 10 s.toNat
  let k := n / d
  let r := n % d
  let isIn (k : Nat) := h.holds (k * Nat.pow 10 s.toNat) (Nat.pow 10 (-s).toNat)
  let nearer := if 2 * r < d then k else if d < 2 * r then k + 1 else if k % 2 = 0 then k else k + 1
  if isIn nearer then some nearer
  else if isIn k then some k
  else if isIn (k + 1) then some (k + 1)
  else none

/-- The fewest digits, from `count` on, that read back; all seventeen digits do. -/
def fewestDigits (h : Neighbourhood) (point : Int) : Nat → Nat → Nat × Int
  | 0, count => ((h.multipleAt (point - count)).getD 0, point - count)
  | fuel + 1, count =>
    match h.multipleAt (point - count) with
    | some k => (k, point - count)
    | none => fewestDigits h point fuel (count + 1)

/-- The shortest multiple of a power of ten that reads back, with its exponent. -/
def shortest (h : Neighbourhood) : Nat × Int :=
  fewestDigits h (decimalPoint h.value h.unit) 16 1

end Neighbourhood

/-- Digits without the zeros at their end. -/
def dropTrailingZeros (ds : List Char) : List Char := (ds.reverse.dropWhile (· == '0')).reverse

namespace Binary64

/-- The digits and the point of the shortest text of `m · 2^q`. -/
def shortestDigits (m : Nat) (q : Int) : List Char × Int :=
  if m = 0 then (['0'], 1)
  else
    let (k, s) := (Neighbourhood.ofScaled m q).shortest
    let ds := decimalDigits k
    (dropTrailingZeros ds, s + ds.length)

/-- Where a text changes to an exponent: from ten to the sixteenth on, and below a ten-thousandth. -/
def isPositional (point : Int) : Bool := -3 ≤ point && point ≤ 16

/-- A positional text shows at least one digit after the point. -/
def withPoint (ds : List Char) (point : Int) : List Char :=
  match placePoint ds point with
  | (whole, []) => orZero whole ++ ['.', '0']
  | (whole, part) => orZero whole ++ '.' :: part

/-- The text of a number without its sign. -/
def magnitudeText (m : Nat) (q : Int) : List Char :=
  let (ds, point) := shortestDigits m q
  if isPositional point then withPoint ds point else scientific 'e' 2 ds point

/-- The sign of a text. -/
def signChars (negative : Bool) : List Char := if negative then ['-'] else []

/-- The shortest text that reads back as the number. -/
def text (x : Binary64) : String :=
  String.ofList <| match x.form with
    | .nan => ['n', 'a', 'n']
    | .infinite negative => signChars negative ++ ['i', 'n', 'f']
    | .finite negative m q => signChars negative ++ magnitudeText m q

end Binary64

end SqlDraft
