import SqlDraft.Number.Layout
import SqlDraft.Number.Binary64

/-!
# Decimal numbers

A decimal number keeps its digits: `1.50` and `1.5` are equal and have different texts.

* `DecimalNumber`: an infinity, a value that is no number, or `± coefficient · 10^exponent`.
* `DecimalNumber.text`: without exponent while the exponent is not positive and at most five zeros
  follow the point, else with one digit before the point.
* `DecimalNumber.fitsMemory`, `truncate`: the integer towards zero, if any memory can hold it.
* `DecimalNumber.toBinary`: the nearest binary number.
-/

namespace SqlDraft

/-- A decimal number. -/
inductive DecimalNumber
  /-- A value that is no number, with its diagnostic digits (zero for none). -/
  | nan (negative signaling : Bool) (payload : Nat)
  | infinite (negative : Bool)
  /-- The number `coefficient · 10^exponent`, or its negative. -/
  | finite (negative : Bool) (coefficient : Nat) (exponent : Int)
  deriving DecidableEq

namespace DecimalNumber

/-- The sign of a text. -/
def signChars (negative : Bool) : List Char := if negative then ['-'] else []

/-- Without exponent while the exponent is not positive and at most five zeros follow the point. -/
def isPositional (exponent point : Int) : Bool := exponent ≤ 0 && point > -6

/-- The exponent after the digits, with its sign and without leading zeros. -/
def withExponent (ds : List Char) (point : Int) : List Char := scientific 'E' 1 ds point

/-- The text of a number without its sign. -/
def magnitudeText (coefficient : Nat) (exponent : Int) : List Char :=
  let ds := decimalDigits coefficient
  let point := exponent + ds.length
  if isPositional exponent point then positional ds point
  else if point = 1 then positional ds point
  else withExponent ds point

/-- The text of a number. -/
def text (x : DecimalNumber) : String :=
  String.ofList <| match x with
    | nan negative signaling payload =>
      signChars negative ++ (if signaling then ['s'] else []) ++ ['N', 'a', 'N'] ++
        (if payload = 0 then [] else decimalDigits payload)
    | infinite negative => signChars negative ++ "Infinity".toList
    | finite negative coefficient exponent =>
      signChars negative ++ magnitudeText coefficient exponent

/-- Zero of any sign and exponent. -/
def isZero : DecimalNumber → Bool
  | finite _ coefficient _ => coefficient == 0
  | _ => false

/-- Whether a number is above zero; a value that is no number has no order. -/
def isPositive : DecimalNumber → Except Fault Bool
  | nan .. => .error .undefinedOrder
  | infinite negative => .ok !negative
  | finite negative coefficient _ => .ok (!negative && coefficient != 0)

/-- The natural number `coefficient · 10^exponent` without its fraction. Nothing is left of a number
whose digits all stand behind the point. -/
def wholePart (coefficient : Nat) (exponent : Int) : Nat :=
  if coefficient = 0 then 0
  else if 0 ≤ exponent then coefficient * Nat.pow 10 exponent.toNat
  else if exponent + (decimalDigits coefficient).length ≤ 0 then 0
  else coefficient / Nat.pow 10 (-exponent).toNat

/-- The number of digits before the point, which is not positive if only zeros stand there. -/
def wholeDigits (coefficient : Nat) (exponent : Int) : Int := (decimalDigits coefficient).length + exponent

/-- The digits of the longest integers in an address space of `2^47` bytes. Nineteen digits take a word of eight
bytes. -/
def addressableDigits : Nat := 19 * Nat.pow 2 44

/-- Whether an address space can hold the integer towards zero. A machine may have less memory than that. -/
def fitsMemory : DecimalNumber → Bool
  | finite _ coefficient exponent => coefficient == 0 || wholeDigits coefficient exponent ≤ addressableDigits
  | _ => true

/-- The integer towards zero. -/
def truncate (x : DecimalNumber) : Except Fault Int :=
  match x with
  | nan .. => .error (.undefinedInteger .decimal)
  | infinite _ => .error (.infiniteInteger .decimal)
  | finite negative coefficient exponent =>
    if x.fitsMemory then .ok (Binary64.signed negative (wholePart coefficient exponent))
    else .error .outOfMemory

theorem truncate_eq_outOfMemory_iff (x : DecimalNumber) :
    x.truncate = .error .outOfMemory ↔ x.fitsMemory = false := by
  cases x with
  | nan | infinite => exact ⟨by rintro ⟨⟩, by rintro ⟨⟩⟩
  | finite negative coefficient exponent =>
    rw [truncate]
    cases fitsMemory (finite negative coefficient exponent) with
    | true => exact ⟨by rintro ⟨⟩, by rintro ⟨⟩⟩
    | false => exact ⟨fun _ => rfl, fun _ => rfl⟩

/-- The nearest binary number. -/
def toBinary : DecimalNumber → Except Fault Binary64
  | nan _ true _ => .error .signalingNumber
  | nan _ false _ => .ok Binary64.nan
  | infinite negative => .ok (Binary64.infinity negative)
  | finite negative coefficient exponent =>
    .ok (Binary64.ofDecimal negative coefficient exponent)

end DecimalNumber

end SqlDraft
