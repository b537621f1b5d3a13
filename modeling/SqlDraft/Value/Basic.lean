import SqlDraft.Calendar.Moment
import SqlDraft.Number.Reading
import SqlDraft.Number.Scaled
import SqlDraft.Text.Upper

/-!
# Values

A fragment of a statement, a name, a limit or an assigned value can be any of these values. Nothing
stops a caller from handing over one of the wrong kind, so every operation says what it does then.

* `Value`: the values. A dictionary lists its entries in the order in which their keys came first.
* `Value.kind`: the kind of a value.
* `Value.truthy`: whether a value counts as present; zeros and empty containers do not.
* `Value.elements`, `joined`: the elements of a value one by one, and joined into one text.
* `Value.isPositive`, `toInteger`, `scaled?`: a value as a number.
-/

namespace SqlDraft

/-- What a caller can hand over. -/
inductive Value
  | null
  | bool (b : Bool)
  | int (i : Int)
  | float (x : Binary64)
  | decimal (x : DecimalNumber)
  | text (s : String)
  | list (xs : List Value)
  | tuple (xs : List Value)
  | dict (entries : List (Value × Value))
  | bytes (bs : List UInt8)
  | date (d : Date)
  | moment (m : Moment)
  deriving Inhabited

namespace Value

/-- The kind of a value. -/
def kind : Value → Kind
  | null => .null
  | bool _ => .bool
  | int _ => .int
  | float _ => .float
  | decimal _ => .decimal
  | text _ => .text
  | list _ => .list
  | tuple _ => .tuple
  | dict _ => .dict
  | bytes _ => .bytes
  | date _ => .date
  | moment _ => .datetime

/-- Whether a value counts as present: zeros, empty texts and empty containers do not. -/
def truthy : Value → Bool
  | null => false
  | bool b => b
  | int i => i != 0
  | float x => !x.isZero
  | decimal x => !x.isZero
  | text s => s != ""
  | list xs => !xs.isEmpty
  | tuple xs => !xs.isEmpty
  | dict es => !es.isEmpty
  | bytes bs => !bs.isEmpty
  | date _ => true
  | moment _ => true

/-- A value, or another in place of one that does not count as present. -/
def orElse (v w : Value) : Value := if v.truthy then v else w

@[simp] theorem truthy_text (s : String) : (text s).truthy = (s != "") := rfl

@[simp] theorem orElse_of_truthy {v : Value} (h : v.truthy = true) (w : Value) : v.orElse w = v := by
  simp [orElse, h]

@[simp] theorem orElse_of_not_truthy {v : Value} (h : v.truthy = false) (w : Value) :
    v.orElse w = w := by
  simp [orElse, h]

/-! ## Elements -/

/-- The characters of a text, each as a text. -/
def characters (s : String) : List Value := s.toList.map fun c => text c.toString

/-- The elements of a value: those of a sequence, the characters of a text, the keys of a dictionary,
the numbers of a byte string. -/
def elements? : Value → Option (List Value)
  | list xs => some xs
  | tuple xs => some xs
  | text s => some (characters s)
  | dict es => some (es.map Prod.fst)
  | bytes bs => some (bs.map fun b => int b.toNat)
  | _ => none

/-- The elements of a value. -/
def elements (v : Value) : Except Fault (List Value) :=
  match v.elements? with
  | some xs => .ok xs
  | none => .error (.notIterable v.kind)

/-- The number of elements of a value. -/
def length (v : Value) : Except Fault Nat :=
  match v.elements? with
  | some xs => .ok xs.length
  | none => .error (.noLength v.kind)

/-- The texts of a list of values from a position on, if all are texts. -/
def textsFrom : Nat → List Value → Except Fault (List String)
  | _, [] => .ok []
  | i, text s :: vs => (textsFrom (i + 1) vs).map (s :: ·)
  | i, v :: _ => .error (.notText i v.kind)

/-- The texts of a list of values, if all are texts. -/
def texts (vs : List Value) : Except Fault (List String) := textsFrom 0 vs

/-- Texts with a separator between them. -/
def joinTexts (sep : String) (ss : List String) : String := sep.intercalate ss

/-- The elements of a list, all of which must be texts, with a separator between them. -/
def joinedList (sep : String) (vs : List Value) : Except Fault String :=
  (texts vs).map (joinTexts sep)

/-- The elements of a value, all of which must be texts, with a separator between them. -/
def joined (sep : String) (v : Value) : Except Fault String :=
  match v.elements? with
  | some xs => joinedList sep xs
  | none => .error .notJoinable

theorem textsFrom_map_text (i : Nat) (ss : List String) : textsFrom i (ss.map text) = .ok ss := by
  induction ss generalizing i with
  | nil => rfl
  | cons s ss ih => simp [textsFrom, ih, Except.map]

@[simp] theorem texts_map_text (ss : List String) : texts (ss.map text) = .ok ss :=
  textsFrom_map_text 0 ss

/-! ## Numbers -/

/-- Whether a value is a number above zero. -/
def isPositive : Value → Except Fault Bool
  | bool b => .ok b
  | int i => .ok (0 < i)
  | float x => .ok x.isPositive
  | decimal x => x.isPositive
  | v => .error (.incomparable v.kind)

/-- A value as an integer: a number without its fraction, or a text that is an integer. -/
def toInteger : Value → Except Fault Int
  | bool b => .ok (if b then 1 else 0)
  | int i => .ok i
  | float x => x.truncate
  | decimal x => x.truncate
  | text s => readInteger s
  | bytes bs => readByteInteger bs
  | v => .error (.notNumber v.kind)

/-- A finite number as an integer times a power of ten. -/
def scaled? : Value → Option Scaled
  | bool b => some ⟨if b then 1 else 0, 0⟩
  | int i => some ⟨i, 0⟩
  | float x => x.scaled?
  | decimal x => x.scaled?
  | _ => none

/-! ## Letters -/

/-- A text or a byte string in capitals. -/
def upper : Value → Except Fault Value
  | text s => .ok (text (upperText s))
  | bytes bs => .ok (bytes (bs.map fun b => if 97 ≤ b && b ≤ 122 then b - 32 else b))
  | v => .error (.noMember v.kind "upper")

end Value

end SqlDraft
