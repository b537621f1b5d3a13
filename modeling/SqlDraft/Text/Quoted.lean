import SqlDraft.Text.Printable

/-!
# Quoted text

The quoted form of a text shows every character without line breaks or controls, between single
quotes, or between double quotes where that spares an escape.

* `quoteMark`: the quote a text is written with.
* `escapeChar`: one character of the quoted form.
* `quotedText`, `quotedBytes`: the quoted forms of a text and of a byte string.
* `holdsNull`: whether a text holds the null character.
-/

namespace SqlDraft

/-- The single quote. -/
def singleQuote : Char := Char.ofNat 39

/-- The double quote. -/
def doubleQuote : Char := Char.ofNat 34

/-- A number in lower-case hexadecimal, with leading zeros up to a width. -/
def hexPadded (width n : Nat) : List Char :=
  let ds := Nat.toDigits 16 n
  List.replicate (width - ds.length) '0' ++ ds

/-- The shortest of the three escapes by number that fits the code point. -/
def escapeCode (n : Nat) : List Char :=
  if n ≤ 0xff then '\\' :: 'x' :: hexPadded 2 n
  else if n ≤ 0xffff then '\\' :: 'u' :: hexPadded 4 n
  else '\\' :: 'U' :: hexPadded 8 n

/-- One character between quotes `q`; `shows` tells which characters stand for themselves. -/
def escapeChar (shows : Char → Bool) (q c : Char) : List Char :=
  if c = q ∨ c = '\\' then ['\\', c]
  else if c = '\t' then ['\\', 't']
  else if c = '\n' then ['\\', 'n']
  else if c = '\r' then ['\\', 'r']
  else if shows c then [c]
  else escapeCode c.toNat

/-- Double quotes for a text that holds single quotes but no double ones, else single quotes. -/
def quoteMark (cs : List Char) : Char :=
  if singleQuote ∈ cs ∧ doubleQuote ∉ cs then doubleQuote else singleQuote

/-- A text between quotes, with its escapes. -/
def quotedChars (shows : Char → Bool) (cs : List Char) : List Char :=
  let q := quoteMark cs
  q :: cs.flatMap (escapeChar shows q) ++ [q]

/-- The printable characters of ASCII. -/
def isAsciiPrintable (c : Char) : Bool := 32 ≤ c.toNat && c.toNat < 127

/-- The quoted form of a text: printable characters of every script stand for themselves. -/
def quotedText (s : String) : String := String.ofList (quotedChars isPrintable s.toList)

/-- The characters of a byte string, one for each byte. -/
def byteChars (bs : List UInt8) : List Char := bs.map fun b => Char.ofNat b.toNat

/-- The quoted form of a byte string, marked by a leading `b`. -/
def quotedBytes (bs : List UInt8) : String :=
  String.ofList ('b' :: quotedChars isAsciiPrintable (byteChars bs))

theorem quoteMark_eq (cs : List Char) : quoteMark cs = singleQuote ∨ quoteMark cs = doubleQuote := by
  unfold quoteMark
  split
  · exact .inr rfl
  · exact .inl rfl

/-- Whether a text holds the null character. -/
def holdsNull (s : String) : Bool := s.toList.contains (Char.ofNat 0)

end SqlDraft
