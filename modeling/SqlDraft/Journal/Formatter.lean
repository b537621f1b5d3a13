import SqlDraft.Journal.Record
import SqlDraft.Text.Digit
import SqlDraft.Text.Word

/-!
# Formatters

A formatter writes records by a template, which must name at least one field of the record. A formatter
with colours wraps the names of the common levels in the codes of a terminal.

* `namesField`, `namesTime`: whether a template names a field, and whether it names the time.
* `colourOf?`, `inColour`: the colours of levels.
* `Formatter`, `Formatter.make`: the formatters.
* `below`: a text with another one below it.
* `Formatter.line`, `write`: a record by the template of a formatter, and with its exception and its stack.
* `Formatter.colouredName`, `format`: the same in colour; the record gets its level name back whatever
  happens.
-/

namespace SqlDraft

/-! ## Templates for records -/

/-- The letters that can end a field. Those of each other's case count as one, and so do letters whose
capital or small letter is one of them. -/
def fieldLetters : List Char :=
  "diouxefgcrsaDIOUXEFGCRSA%".toList ++ [Char.ofNat 0x130, Char.ofNat 0x131, Char.ofNat 0x17f]

/-- What follows a width at the start of a text. -/
def dropWidth : List Char → List Char
  | '*' :: cs => cs
  | cs => cs.dropWhile isDecimalDigit

/-- What follows a precision at the start of a text. A point without a precision stays. -/
def dropPrecision : List Char → List Char
  | '.' :: '*' :: cs => cs
  | '.' :: c :: cs => if isDecimalDigit c then cs.dropWhile isDecimalDigit else '.' :: c :: cs
  | cs => cs

/-- Whether a text starts with a field: a named directive. -/
def startsWithField : List Char → Bool
  | '%' :: '(' :: cs =>
    match cs.takeWhile isWordChar, cs.dropWhile isWordChar with
    | _ :: _, ')' :: cs =>
      match dropPrecision (dropWidth (cs.dropWhile isFlag)) with
      | c :: _ => fieldLetters.contains c
      | [] => false
    | _, _ => false
  | _ => false

/-- Whether a field stands anywhere in a text. -/
def namesField : List Char → Bool
  | [] => false
  | c :: cs => startsWithField (c :: cs) || namesField cs

/-- How a template asks for the time. -/
def timeField : List Char := "%(asctime)".toList

/-- Whether a template asks for the time. -/
def namesTime : List Char → Bool
  | [] => false
  | c :: cs => timeField.isPrefixOf (c :: cs) || namesTime cs

/-! ## Colours -/

/-- The escape character. -/
def escapeMark : Char := Char.ofNat 27

/-- A code of a terminal. -/
def terminalCode (n : String) : String := String.ofList [escapeMark, '['] ++ n ++ "m"

/-- The code of a level's colour. -/
def colourOf? : String → Option String
  | "DEBUG" => some (terminalCode "36")
  | "INFO" => some (terminalCode "32")
  | "WARNING" => some (terminalCode "33")
  | "ERROR" => some (terminalCode "31")
  | "CRITICAL" => some (terminalCode "35")
  | _ => none

/-- The code that ends a colour. -/
def plainCode : String := terminalCode "0"

/-- A text in a colour. -/
def inColour (colour s : String) : String := colour ++ s ++ plainCode

/-! ## Lines below lines -/

/-- Whether a text ends with the end of a line. -/
def endsLine (cs : List Char) : Bool := cs.getLast? == some '\n'

/-- A text with another one below it, unless that does not count as present. -/
def below (s : String) (v : Value) : Except Fault String :=
  if v.truthy then
    match v with
    | .text t => .ok ((if endsLine s.toList then s else s ++ "\n") ++ t)
    | v => .error (.notAppendable v.kind)
  else .ok s

/-! ## Formatters -/

/-- What writes records. -/
structure Formatter where
  template : String
  colours : Bool

namespace Formatter

/-- The template of a formatter that was given none. -/
def defaultTemplate : String := "%(message)s"

/-- A formatter for a template; the template must name a field. -/
def make (template : Value) (colours : Bool) : Except Fault Formatter :=
  match template.orElse (.text defaultTemplate) with
  | .text t => if namesField t.toList then .ok ⟨t, colours⟩ else .error (.invalidTemplate t)
  | v => .error (.notTemplate v.kind)

/-- The time of a record, if the template asks for it. -/
def time? (f : Formatter) (r : Record) : Except Fault (Option String) :=
  if namesTime f.template.toList then r.time.map some else .ok none

/-- The line of a record, without colours of its own. -/
def line (f : Formatter) (r : Record) : Except Fault String := do
  let text ← r.text
  let time ← f.time? r
  match fill f.template (.ofDictionary (.dict (r.entries text time))) with
  | .error (.missingKey shown) => .error (.missingField shown)
  | answer => answer

/-- A record as a text, without colours of its own: its line, and below it the exception and the stack that it tells
of. -/
def write (f : Formatter) (r : Record) : Except Fault String := do
  let line ← f.line r
  let line ← below line (← r.note)
  below line r.stack

/-- A record after it was written. As soon as it has a line, the text of its exception is noted. -/
def noting (f : Formatter) (r : Record) : Record :=
  match f.line r, r.note with
  | .ok _, .ok text => { r with exceptionText := text }
  | _, _ => r

/-- What a formatter makes of the name of a level: the same in colour, if there is a colour for it. -/
def colouredName (f : Formatter) (name : Value) : Except Fault (Option Value) :=
  if f.colours then
    match name.keyFault with
    | some fault => .error fault
    | none =>
      match name with
      | .text s => .ok ((colourOf? s).map fun colour => .text (inColour colour s))
      | _ => .ok none
  else .ok none

/-- A record as a text. The level name is coloured while the record is written. -/
def format (f : Formatter) (r : Record) : Record × Except Fault String :=
  match f.colouredName r.levelName with
  | .error fault => (r, .error fault)
  | .ok none => (f.noting r, f.write r)
  | .ok (some name) =>
    let coloured := { r with levelName := name }
    ({ f.noting coloured with levelName := r.levelName }, f.write coloured)

theorem noting_eq (f : Formatter) (r : Record) :
    f.noting r = { r with exceptionText := (f.noting r).exceptionText } := by
  unfold noting
  split <;> rfl

theorem noting_of_isNoted (f : Formatter) {r : Record} (h : r.isNoted = true) : f.noting r = r := by
  unfold noting Record.note
  rw [if_pos h]
  split
  · rename_i htext
    cases htext
    rfl
  · rfl

/-- A record is left as it was, but that the text of its exception may be noted. -/
theorem format_record_eq (f : Formatter) (r : Record) :
    (f.format r).1 = { r with exceptionText := (f.format r).1.exceptionText } := by
  unfold format
  split
  · rfl
  · exact f.noting_eq r
  · rename_i name _
    dsimp only
    rw [f.noting_eq { r with levelName := name }]

/-- A record without an exception to note is left as it was. -/
theorem format_record (f : Formatter) {r : Record} (h : r.isNoted = true) : (f.format r).1 = r := by
  unfold format
  split
  · rfl
  · exact f.noting_of_isNoted h
  · rename_i name _
    have hcoloured : ({ r with levelName := name } : Record).isNoted = true := h
    dsimp only
    rw [f.noting_of_isNoted hcoloured]

end Formatter

end SqlDraft
