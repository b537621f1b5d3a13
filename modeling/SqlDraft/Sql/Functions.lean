import SqlDraft.Signature
import SqlDraft.Value.Text

/-!
# Date functions

Expressions of the server's date arithmetic, to be used as fragments. A date that is left blank is the
current time of the server.

* `nowToken`: the current time.
* `dateDifference`: the days between two dates.
* `dateAddition`: a date some units later.
* `DateFunction`, `DateFunction.ofName?`, `call`: the functions by name, called with arguments in order.
-/

namespace SqlDraft

/-- The current time of the server. -/
def nowToken : String := "NOW()"

/-- A date, or the current time if it is blank. -/
def dateOrNow (date : Value) : Value := date.orElse (.text nowToken)

/-- The days between two dates. -/
def dateDifference (first second : Value) : Except Fault String := do
  let first ← (dateOrNow first).shown
  let second ← (dateOrNow second).shown
  .ok ("DATEDIFF(" ++ first ++ ", " ++ second ++ ")")

/-- No units, for a date that is not moved. -/
def defaultInterval : Value := .int 0

/-- Dates are moved by days unless another unit is named. -/
def defaultUnit : Value := .text "DAY"

/-- A date some units later. -/
def dateAddition (date interval unit : Value) : Except Fault String := do
  let date ← (dateOrNow date).shown
  let interval ← interval.shown
  let unit ← unit.shown
  .ok ("DATE_ADD(" ++ date ++ ", INTERVAL " ++ interval ++ " " ++ unit ++ ")")

/-- A function by its name. -/
structure DateFunction where
  name : String
  /-- The parameters that a call must fill. -/
  required : List String
  /-- How many further parameters a call can fill. -/
  optional : Nat
  answer : List Value → Except Fault String

namespace DateFunction

/-- A date that is left blank. -/
def blank : Value := .text ""

/-- All functions. -/
def all : List DateFunction :=
  [⟨"now_sql", [], 0, fun _ => .ok nowToken⟩,
    ⟨"date_diff_sql", [], 2, fun args => dateDifference (args.getD 0 blank) (args.getD 1 blank)⟩,
    ⟨"date_add_sql", ["date"], 2, fun args =>
      dateAddition (args.getD 0 blank) (args.getD 1 defaultInterval) (args.getD 2 defaultUnit)⟩]

/-- The function of a name. -/
def ofName? (name : String) : Option DateFunction := all.find? fun f => f.name == name

/-- The signature of a function. -/
def signature (f : DateFunction) : Signature := ⟨f.name, f.required, f.optional, 0, 0⟩

/-- A function called with arguments. -/
def call (f : DateFunction) (args : List Value) : Except Fault String := do
  f.signature.check args.length
  f.answer args

end DateFunction

@[simp] theorem dateOrNow_blank : dateOrNow (.text "") = .text nowToken := rfl

end SqlDraft
