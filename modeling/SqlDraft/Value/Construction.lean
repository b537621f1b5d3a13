import SqlDraft.Value.Basic

/-!
# Values made of others

Dates, byte strings and numbers are made of values, of which any can be of the wrong kind.

* `Value.integral`: a value as an integer, if it is one.
* `Value.arguments`: the elements of a value as the arguments of a function.
* `Date.ofValue`, `Moment.ofValues`: a date and a moment of their numbers.
* `Value.toBinary`, `toDecimal`: a value as a binary and as a decimal number.
* `Value.toBytes`: a value as a byte string.
-/

namespace SqlDraft

namespace Value

/-- An integer, or a truth value as one. -/
def integral : Value → Except Fault Int
  | int i => .ok i
  | bool b => .ok (if b then 1 else 0)
  | v => .error (.notIntegral v.kind)

/-- The elements of a value as the arguments of a function. -/
def arguments (v : Value) (function : String) : Except Fault (List Value) :=
  match v.elements? with
  | some vs => .ok vs
  | none => .error (.notArguments function v.kind)

end Value

/-! ## Dates and moments -/

namespace Date

/-- The numbers that every date has. -/
def numberNames : List String := ["year", "month", "day"]

/-- A number of a date, which must fit in 32 bits whatever it means. -/
def number (v : Value) : Except Fault Int := do
  let n ← v.integral
  checkWidth n
  .ok n

/-- The numbers of a date; the first three must be there. -/
def numbers (vs : List Value) : Except Fault (List Int) := do
  let ns ← vs.mapM number
  match numberNames[ns.length]? with
  | some name => .error (.dateNumberMissing name (ns.length + 1))
  | none => .ok ns

/-- The date of a year, a month and a day, the elements of a value. -/
def ofValue (v : Value) : Except Fault Date := do
  let vs ← v.arguments "datetime.date"
  if numberNames.length < vs.length then
    .error (.dateNumbersLeft numberNames.length vs.length)
  else
    let ns ← numbers vs
    ofNumbers (ns.getD 0 0) (ns.getD 1 0) (ns.getD 2 0)

end Date

namespace Moment

/-- How many numbers a moment has. -/
def numberCount : Nat := 7

/-- The most arguments that make a moment: its numbers, its clock, and which of two equal times of day
it is. -/
def argumentLimit : Nat := numberCount + 2

/-- A clock by its offset in seconds. No offset is known of a clock that is null. -/
def clockOffset : Value → Except Fault (Option Int)
  | .null => .ok none
  | .int i => (checkedOffset i).map some
  | .bool b => .ok (some (if b then 1 else 0))
  | v => .error (.notSpan v.kind)

/-- The moment of a date and a time of day, the elements of a value, by a clock with an offset. The offset
is looked at first. Numbers of the time of day that are left out are zero. -/
def ofValues (numbers offset : Value) : Except Fault Moment := do
  let offset ← clockOffset offset
  let vs ← numbers.arguments "datetime.datetime"
  if argumentLimit ≤ vs.length then
    .error (.dateNumbersLeft argumentLimit (vs.length + 1))
  else
    let ns ← Date.numbers (vs.take numberCount)
    if numberCount < vs.length then .error (.clockGivenTwice (numberCount + 1))
    else
      ofNumbers (ns.getD 0 0) (ns.getD 1 0) (ns.getD 2 0) (ns.getD 3 0) (ns.getD 4 0) (ns.getD 5 0)
        (ns.getD 6 0) offset

end Moment

/-! ## Numbers and byte strings -/

namespace Value

/-- A text or a number as a binary number. -/
def toBinary : Value → Except Fault Binary64
  | text s => Binary64.ofText s
  | int i => Binary64.ofBoundedInteger i
  | bool b => Binary64.ofBoundedInteger (if b then 1 else 0)
  | float x => .ok x
  | decimal x => x.toBinary
  | v => .error (.notReal v.kind)

/-- A text or an integer as a decimal number. -/
def toDecimal : Value → Except Fault DecimalNumber
  | text s => DecimalNumber.ofText s
  | int i => .ok (.finite (i < 0) i.natAbs 0)
  | bool b => .ok (.finite false (if b then 1 else 0) 0)
  | decimal x => .ok x
  | list _ | tuple _ => .error .notDecimalParts
  | v => .error (.notDecimalKind v.kind)

/-- A byte. -/
def toByte (v : Value) : Except Fault UInt8 := do
  let n ← v.integral
  if 0 ≤ n ∧ n < 256 then .ok (UInt8.ofNat n.toNat) else .error .byteOutOfRange

/-- As many zero bytes. -/
def zeroBytes (n : Int) : Except Fault (List UInt8) :=
  if !fitsBits 64 n then .error .lengthTooLarge
  else if n < 0 then .error .negativeLength
  else .ok (List.replicate n.toNat 0)

/-- The elements of a value as bytes; an integer stands for as many zero bytes. -/
def toBytes : Value → Except Fault (List UInt8)
  | text _ => .error .textNotBytes
  | int i => zeroBytes i
  | bool b => zeroBytes (if b then 1 else 0)
  | v =>
    match v.elements? with
    | some vs => vs.mapM toByte
    | none => .error (.notBytes v.kind)

end Value

end SqlDraft
