import SqlDraft.Number.DecimalNumber
import SqlDraft.Text.Blank
import SqlDraft.Text.Digit
import SqlDraft.Text.Quoted

/-!
# Reading numbers

* `digitsValue`: the value of a run of digits.
* `readInteger`, `readByteInteger`: a whole text as an integer, between blanks, with an optional sign
  and single low lines between digits.
* `leadingInteger`: the integer a text starts with.
* `Binary64.ofText`, `DecimalNumber.ofText`: a text in positional or scientific notation.
-/

namespace SqlDraft

/-- The value of a run of decimal digits of any scripts, most significant first. -/
def digitsValue (cs : List Char) : Nat :=
  cs.foldl (fun n c => 10 * n + (digitValue? c).getD 0) 0

/-- A sign, and what follows it. -/
def takeSign : List Char → Bool × List Char
  | '-' :: cs => (true, cs)
  | '+' :: cs => (false, cs)
  | cs => (false, cs)

/-! ## Whole texts -/

/-- A blank around an integer: in ASCII the six common ones. -/
def isIntegerBlank (c : Char) : Bool :=
  if c.toNat < 128 then isAsciiBlank c else isBlank c

/-- The digits at the start of a text, with single low lines between them, and the rest. Nothing is
read if a low line does not stand between two digits. -/
def takeGrouped (digit : Char → Bool) : List Char → Option (List Char × List Char)
  | [] => some ([], [])
  | c :: cs =>
    if digit c then (takeGrouped digit cs).map fun r => (c :: r.1, r.2)
    else if c = '_' then
      match cs with
      | d :: _ => if digit d then takeGrouped digit cs else none
      | [] => none
    else some ([], c :: cs)

/-- An integer between blanks. `shown` is the text in quoted form, for the fault. -/
def readIntegerChars (shown : String) (blank digit : Char → Bool) (cs : List Char) :
    Except Fault Int :=
  let fault := Fault.notInteger (String.ofList (shown.toList.take 200))
  let (negative, body) := takeSign (cs.dropWhile blank)
  match body with
  | [] => .error fault
  | c :: _ =>
    if !digit c then .error fault
    else
      match takeGrouped digit body with
      | none => .error fault
      | some (ds, rest) =>
        if ds.length > digitLimit then .error (.tooManyDigits (some ds.length))
        else if rest.all blank then .ok (Binary64.signed negative (digitsValue ds))
        else .error fault

/-- A whole text as an integer. -/
def readInteger (s : String) : Except Fault Int :=
  readIntegerChars (quotedText s) isIntegerBlank isDecimalDigit s.toList

/-- A whole byte string as an integer, in ASCII. -/
def readByteInteger (bs : List UInt8) : Except Fault Int :=
  readIntegerChars (quotedBytes bs) isAsciiBlank (fun c => c.isDigit) (byteChars bs)

/-! ## The start of a text -/

/-- The sign and the digits a text starts with, after blanks. -/
def leadingDigits (cs : List Char) : Option (Bool × List Char) :=
  let (negative, body) := takeSign (cs.dropWhile isBlank)
  match body.takeWhile isDecimalDigit with
  | [] => none
  | ds => some (negative, ds)

/-- The integer a text starts with, after blanks; zero if it starts with none. -/
def leadingInteger (s : String) : Except Fault Int :=
  match leadingDigits s.toList with
  | none => .ok 0
  | some (negative, ds) =>
    if ds.length > digitLimit then .error (.tooManyDigits (some ds.length))
    else .ok (Binary64.signed negative (digitsValue ds))

/-! ## Scientific notation -/

/-- A digit of any script as the common digit of its value. -/
def commonDigit (c : Char) : Char :=
  match digitValue? c with
  | some n => Char.ofNat (48 + n)
  | none => c

/-- A text without the blanks around it, in common digits. -/
def trimmedNumeral (blank : Char → Bool) (s : String) : List Char :=
  let trim (cs : List Char) := cs.dropWhile blank
  ((trim (trim s.toList).reverse).reverse).map commonDigit

/-- Whether every low line stands between two digits. `digitBefore` tells whether a digit comes first. -/
def groupsDigits (digitBefore : Bool) : List Char → Bool
  | [] => true
  | c :: cs =>
    if c = '_' then digitBefore && cs.head?.any (fun d => d.isDigit) && groupsDigits false cs
    else groupsDigits c.isDigit cs

/-- A numeral without its low lines. -/
def ungrouped (cs : List Char) : List Char := cs.filter (· != '_')

/-- A number in scientific notation: `± coefficient · 10^exponent`. -/
structure Scientific where
  negative : Bool
  coefficient : Nat
  exponent : Int

/-- The exponent after a number, zero if there is none. -/
def readExponent : List Char → Option Int
  | [] => some 0
  | c :: cs =>
    if c = 'e' ∨ c = 'E' then
      let (negative, ds) := takeSign cs
      if ds ≠ [] ∧ ds.all (fun c => c.isDigit) then some (Binary64.signed negative (digitsValue ds))
      else none
    else none

/-- Digits with an optional point and an optional exponent. -/
def readScientific (negative : Bool) (cs : List Char) : Option Scientific :=
  let whole := cs.takeWhile fun c => c.isDigit
  let rest := cs.dropWhile fun c => c.isDigit
  let (part, rest) := match rest with
    | '.' :: rest => (rest.takeWhile (fun c => c.isDigit), rest.dropWhile (fun c => c.isDigit))
    | rest => ([], rest)
  if whole ++ part = [] then none
  else (readExponent rest).map fun e => ⟨negative, digitsValue (whole ++ part), e - part.length⟩

/-- A text in lower case, as far as ASCII goes. -/
def lowered (cs : List Char) : String := String.ofList (cs.map Char.toLower)

namespace Binary64

/-- The number a numeral denotes, rounded to the nearest. -/
def ofNumeral? (cs : List Char) : Option Binary64 :=
  let (negative, cs) := takeSign cs
  match lowered cs with
  | "nan" => some nan
  | "inf" | "infinity" => some (infinity negative)
  | _ =>
    (readScientific negative cs).map fun x => ofDecimal x.negative x.coefficient x.exponent

/-- The number a text denotes, rounded to the nearest. Low lines may stand between two digits. -/
def ofText (s : String) : Except Fault Binary64 :=
  let cs := trimmedNumeral isIntegerBlank s
  match if groupsDigits false cs then ofNumeral? (ungrouped cs) else none with
  | some x => .ok x
  | none => .error (.notBinary (quotedText s))

end Binary64

namespace DecimalNumber

/-- The largest exponent of a number with one digit before the point. -/
def largestPoint : Int := 999999999999999999

/-- The least exponent of a number as a whole number of units. -/
def leastExponent : Int := -1999999999999999997

/-- The diagnostic digits of a value that is no number. -/
def readPayload (cs : List Char) : Option Nat :=
  if cs.all (fun c => c.isDigit) then some (digitsValue cs) else none

/-- The number a numeral denotes, with all its digits. -/
def ofNumeral? (cs : List Char) : Option DecimalNumber :=
  let (negative, cs) := takeSign cs
  match lowered cs with
  | "inf" | "infinity" => some (infinite negative)
  | _ =>
    if lowered (cs.take 3) = "nan" then (readPayload (cs.drop 3)).map (nan negative false)
    else if lowered (cs.take 4) = "snan" then (readPayload (cs.drop 4)).map (nan negative true)
    else (readScientific negative cs).map fun x => finite x.negative x.coefficient x.exponent

/-- Whether a number is neither too large nor too finely divided. -/
def inRange : DecimalNumber → Bool
  | finite _ coefficient exponent =>
    leastExponent ≤ exponent && exponent + (decimalDigits coefficient).length - 1 ≤ largestPoint
  | _ => true

/-- The number a text denotes, with all its digits. Low lines say nothing. -/
def ofText (s : String) : Except Fault DecimalNumber :=
  match ofNumeral? (ungrouped (trimmedNumeral isBlank s)) with
  | some x => if x.inRange then .ok x else .error .decimalOutOfRange
  | none => .error .notDecimal

end DecimalNumber

end SqlDraft
