import SqlDraft.Template.Conversion
import SqlDraft.Value.Entry

/-!
# Filling templates

A template is filled from a sequence of values, which its directives take in turn, or from a dictionary,
whose entries they name. A dictionary is itself a value until a directive has taken or named one.

* `Supply`: the values that are left.
* `Supply.take`, `Supply.name`: the next value, and the value of a key.
* `Directive.fill`: the text of a directive. Key, width, precision, value and conversion are looked at in
  this order, and the first fault wins.
* `fill`: the text of a template. All values of a sequence must be taken.
-/

namespace SqlDraft

/-- The values a template is filled from. -/
inductive Supply
  | sequence (vs : List Value)
  /-- A dictionary, and the value that the next directive takes. -/
  | dictionary (d : Value) (next : Option Value)

namespace Supply

/-- The supply of a dictionary: at first the dictionary itself. -/
def ofDictionary (d : Value) : Supply := dictionary d (some d)

/-- The next value. -/
def take : Supply → Except Fault (Value × Supply)
  | sequence (v :: vs) => .ok (v, sequence vs)
  | sequence [] => .error .valuesMissing
  | dictionary d (some v) => .ok (v, dictionary d none)
  | dictionary _ none => .error .valuesMissing

/-- Makes the value of a key the next one. -/
def name (s : Supply) (k : Key) : Except Fault Supply :=
  match k with
  | .absent => .ok s
  | .unclosed =>
    match s with
    | sequence _ => .error .needsDictionary
    | dictionary .. => .error .incompleteKey
  | .named key =>
    match s with
    | sequence _ => .error .needsDictionary
    | dictionary d _ => (d.entry key).map fun v => dictionary d (some v)

/-- Checks that a directive took the value it named. -/
def checkTaken : Supply → Except Fault Unit
  | dictionary _ (some _) => .error .valuesLeft
  | _ => .ok ()

/-- Checks that every value was taken. -/
def checkEmpty : Supply → Except Fault Unit
  | sequence (_ :: _) => .error .valuesLeft
  | _ => .ok ()

end Supply

/-! ## Width and precision -/

/-- The largest width. -/
def widthLimit : Nat := Nat.pow 2 63 - 1

/-- The largest precision. -/
def precisionLimit : Nat := Nat.pow 2 31 - 1

/-- An integer from the supply. -/
def takeInteger (s : Supply) : Except Fault (Int × Supply) := do
  match ← s.take with
  | (.int i, s) => .ok (i, s)
  | (.bool b, s) => .ok (if b then 1 else 0, s)
  | _ => .error .starNeedsInteger

/-- Whether an integer fits between a limit and its negative. -/
def fits (limit : Nat) (i : Int) : Bool := -(limit : Int) - 1 ≤ i && i ≤ limit

/-- The width of a field, and whether its text goes to the left. A negative width says so. -/
def widthOf (a : Amount) (s : Supply) : Except Fault (Nat × Bool × Supply) :=
  match a with
  | .absent => .ok (0, false, s)
  | .given n => if n > widthLimit then .error .widthTooLarge else .ok (n, false, s)
  | .taken => do
    let (i, s) ← takeInteger s
    if fits widthLimit i then .ok (i.natAbs, i < 0, s) else .error .starredWidthTooLarge

/-- The precision. A negative one counts as zero. -/
def precisionOf (a : Amount) (s : Supply) : Except Fault (Option Nat × Supply) :=
  match a with
  | .absent => .ok (none, s)
  | .given n => if n > precisionLimit then .error .precisionTooLarge else .ok (some n, s)
  | .taken => do
    let (i, s) ← takeInteger s
    if fits precisionLimit i then .ok (some i.toNat, s) else .error .starredPrecisionTooLarge

/-! ## Directives and templates -/

/-- The text of a directive whose conversion stands at a position, and what is left. -/
def Directive.fill (d : Directive) (position : Nat) (s : Supply) :
    Except Fault (List Char × Supply) := do
  let s ← s.name d.key
  let (width, left, s) ← widthOf d.width s
  let (precision, s) ← precisionOf d.precision s
  match d.conversion with
  | none => .error .incompleteDirective
  | some letter =>
    let (v, s) ← s.take
    match Conversion.ofChar? letter with
    | none => .error (.unknownConversion letter position)
    | some c =>
      let frame : Frame := ⟨{ d.flags with left := d.flags.left || left }, width, precision⟩
      let cs ← c.write letter frame v
      s.checkTaken
      .ok (cs, s)

/-- The text of a piece, and what is left. -/
def Piece.fill (p : Piece) (s : Supply) : Except Fault (List Char × Supply) :=
  match p with
  | .char c => .ok ([c], s)
  | .directive d position => d.fill position s

/-- The text of pieces. -/
def fillPieces : List Piece → Supply → Except Fault (List Char)
  | [], s => s.checkEmpty.map fun _ => []
  | p :: ps, s => do
    let (cs, s) ← p.fill s
    return cs ++ (← fillPieces ps s)

/-- The text of a template. -/
def fill (template : String) (s : Supply) : Except Fault String :=
  (fillPieces (pieces template) s).map String.ofList

end SqlDraft
