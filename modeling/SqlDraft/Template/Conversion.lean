import SqlDraft.Number.Binary64.Rounded
import SqlDraft.Template.Field
import SqlDraft.Value.Text

/-!
# Conversions

The last character of a directive says how it writes its value: as text, as an integer in some base, as a
real number in some style, or as a single character.

* `Conversion`, `Conversion.ofChar?`: the conversions and their letters.
* `integerValue`, `wholeValue`, `realValue`, `characterValue`: the values a conversion takes.
* `Conversion.write`: a value as a directive writes it.
-/

namespace SqlDraft

/-- The bases other than ten in which integers are written. -/
inductive Base
  | octal
  | hexadecimal (capital : Bool)
  deriving DecidableEq

/-- How a directive writes its value. -/
inductive Conversion
  | shown
  | quoted
  /-- Quoted in ASCII alone. -/
  | escaped
  | decimal
  | based (b : Base)
  | real (style : RealStyle) (capital : Bool)
  | character
  deriving DecidableEq

namespace Conversion

/-- The conversion of a letter. -/
def ofChar? : Char → Option Conversion
  | 's' => some shown
  | 'r' => some quoted
  | 'a' => some escaped
  | 'd' => some decimal
  | 'i' => some decimal
  | 'u' => some decimal
  | 'o' => some (based .octal)
  | 'x' => some (based (.hexadecimal false))
  | 'X' => some (based (.hexadecimal true))
  | 'e' => some (real .exponential false)
  | 'E' => some (real .exponential true)
  | 'f' => some (real .fixed false)
  | 'F' => some (real .fixed true)
  | 'g' => some (real .general false)
  | 'G' => some (real .general true)
  | 'c' => some character
  | _ => none

end Conversion

/-! ## Values -/

/-- An integer; no other number will do. -/
def integerValue (letter : Char) : Value → Except Fault Int
  | .bool b => .ok (if b then 1 else 0)
  | .int i => .ok i
  | v => .error (.needsInteger letter v.kind)

/-- A number without its fraction. -/
def wholeValue (letter : Char) : Value → Except Fault Int
  | .bool b => .ok (if b then 1 else 0)
  | .int i => .ok i
  | .float x => x.truncate
  | .decimal x => x.truncate
  | v => .error (.needsNumber letter v.kind)

/-- The binary number nearest to a number. -/
def realValue : Value → Except Fault Binary64
  | .bool b => Binary64.ofBoundedInteger (if b then 1 else 0)
  | .int i => Binary64.ofBoundedInteger i
  | .float x => .ok x
  | .decimal x => x.toBinary
  | v => .error (.needsReal v.kind)

/-- A character: a text that is one, or the number of one. -/
def characterValue : Value → Except Fault Char
  | .text s =>
    match s.toList with
    | [c] => .ok c
    | _ => .error .needsCharacter
  | .bool b => .ok (Char.ofNat (if b then 1 else 0))
  | .int i => if 0 ≤ i ∧ i < 0x110000 then .ok (Char.ofNat i.toNat) else .error .codePointOutOfRange
  | _ => .error .needsCharacter

/-! ## Texts -/

/-- A text with all characters beyond ASCII escaped. -/
def escapeBeyondAscii (cs : List Char) : List Char :=
  cs.flatMap fun c => if c.toNat < 128 then [c] else escapeCode c.toNat

/-- A text as a directive writes it; a precision cuts it. -/
def textField (frame : Frame) (cs : List Char) : FieldText :=
  .plain (match frame.precision with
    | some n => cs.take n
    | none => cs)

/-- The largest precision an integer is written with. -/
def integerPrecisionLimit : Nat := Nat.pow 2 31 - 4

/-- An integer as a directive writes it, from its digits; a precision is the least number of digits. -/
def integerField (frame : Frame) (negative : Bool) (mark ds : List Char) : FieldText :=
  ⟨signFor frame.flags negative, mark, zeroPadded (frame.precision.getD 0) ds, frame.flags.zero⟩

namespace Base

/-- The digits of a number. -/
def digits : Base → Nat → List Char
  | octal, n => Nat.toDigits 8 n
  | hexadecimal false, n => Nat.toDigits 16 n
  | hexadecimal true, n => (Nat.toDigits 16 n).map Char.toUpper

/-- What marks a number of the base. -/
def mark : Base → List Char
  | octal => ['0', 'o']
  | hexadecimal false => ['0', 'x']
  | hexadecimal true => ['0', 'X']

end Base

/-- The digits a real number is written with if the directive does not say. -/
def usualPrecision : Nat := 6

/-- A real number as a directive writes it. -/
def realField (frame : Frame) (style : RealStyle) (capital : Bool) (x : Binary64) : FieldText :=
  let cs := x.realChars style frame.flags.alternate (frame.precision.getD usualPrecision)
  let cs := if capital then cs.map Char.toUpper else cs
  let negative := cs.head? == some '-'
  ⟨signFor frame.flags negative, [], if negative then cs.tail else cs, frame.flags.zero⟩

namespace Conversion

/-- Checks the precision of an integer. -/
def checkIntegerPrecision (frame : Frame) : Except Fault Unit :=
  if (frame.precision.getD 0) > integerPrecisionLimit then .error .integerPrecisionTooLarge
  else .ok ()

/-- The text of a value. -/
def field (c : Conversion) (letter : Char) (frame : Frame) (v : Value) : Except Fault FieldText :=
  match c with
  | shown => do .ok (textField frame (← v.shown).toList)
  | quoted => do .ok (textField frame (← v.quoted).toList)
  | escaped => do .ok (textField frame (escapeBeyondAscii (← v.quoted).toList))
  | decimal => do
    let i ← wholeValue letter v
    checkIntegerPrecision frame
    if withinDigitLimit i then
      .ok (integerField frame (i < 0) [] (decimalDigits i.natAbs))
    else .error (.tooManyDigits none)
  | based b => do
    let i ← integerValue letter v
    checkIntegerPrecision frame
    .ok (integerField frame (i < 0) (if frame.flags.alternate then b.mark else []) (b.digits i.natAbs))
  | real style capital => do .ok (realField frame style capital (← realValue v))
  | character => do .ok (.plain [← characterValue v])

/-- A value as a directive writes it. -/
def write (c : Conversion) (letter : Char) (frame : Frame) (v : Value) : Except Fault (List Char) :=
  (c.field letter frame v).map fun t => t.laid frame.flags.left frame.width

end Conversion

end SqlDraft
