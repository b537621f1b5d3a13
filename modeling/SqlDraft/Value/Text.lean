import SqlDraft.Number.Binary64.Shortest
import SqlDraft.Value.Basic

/-!
# The text of a value

* `Value.quoted`: a value as it is shown among others; texts are quoted.
* `Value.shown`: a value on its own; a text stands for itself.
-/

namespace SqlDraft

/-- Numbers with a comma between them. -/
def commaNumbers (ns : List Nat) : String := ", ".intercalate (ns.map Nat.repr)

/-- A clock by its offset, in quoted form. -/
def quotedOffset (offset : Int) : String :=
  if offset = 0 then "datetime.timezone.utc" else "datetime.timezone(" ++ quotedSpan offset ++ ")"

/-- The numbers of a moment, without the zeros of its seconds and microseconds. -/
def momentNumbers (m : Moment) : List Nat :=
  [m.date.year, m.date.month, m.date.day, m.clock.hour, m.clock.minute] ++
    (if m.microsecond = 0 then (if m.clock.second = 0 then [] else [m.clock.second])
     else [m.clock.second, m.microsecond])

/-- A moment in quoted form. -/
def quotedMoment (m : Moment) : String :=
  "datetime.datetime(" ++ commaNumbers (momentNumbers m) ++
    (match m.offset with
      | none => ""
      | some o => ", tzinfo=" ++ quotedOffset o) ++ ")"

/-- A date in quoted form. -/
def quotedDate (d : Date) : String :=
  "datetime.date(" ++ commaNumbers [d.year, d.month, d.day] ++ ")"

namespace Value

mutual

/-- A value as it is shown among others. -/
def quoted : Value → Except Fault String
  | null => .ok "None"
  | bool b => .ok (if b then "True" else "False")
  | int i => signedText i
  | float x => .ok x.text
  | decimal x => .ok ("Decimal('" ++ x.text ++ "')")
  | text s => .ok (quotedText s)
  | list xs => (quotedItems xs).map fun ss => "[" ++ ", ".intercalate ss ++ "]"
  | tuple xs => (quotedItems xs).map fun
    | [s] => "(" ++ s ++ ",)"
    | ss => "(" ++ ", ".intercalate ss ++ ")"
  | dict es => (quotedEntries es).map fun ss => "\x7b" ++ ", ".intercalate ss ++ "\x7d"
  | bytes bs => .ok (quotedBytes bs)
  | date d => .ok (quotedDate d)
  | moment m => .ok (quotedMoment m)

/-- The items of a sequence in quoted form. -/
def quotedItems : List Value → Except Fault (List String)
  | [] => .ok []
  | v :: vs => do return (← v.quoted) :: (← quotedItems vs)

/-- The entries of a dictionary in quoted form. -/
def quotedEntries : List (Value × Value) → Except Fault (List String)
  | [] => .ok []
  | (k, v) :: es => do return ((← k.quoted) ++ ": " ++ (← v.quoted)) :: (← quotedEntries es)

end

/-- A value on its own. -/
def shown : Value → Except Fault String
  | text s => .ok s
  | decimal x => .ok x.text
  | date d => .ok d.isoText
  | moment m => .ok m.isoText
  | v => v.quoted

@[simp] theorem shown_text (s : String) : (text s).shown = .ok s := rfl

@[simp] theorem shown_null : null.shown = .ok "None" := rfl

@[simp] theorem shown_int (i : Int) : (int i).shown = signedText i := rfl

end Value

end SqlDraft
