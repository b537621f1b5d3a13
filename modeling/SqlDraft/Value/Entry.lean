import SqlDraft.Value.Basic

/-!
# Entries of containers

* `Value.sameKey`: whether two keys are one; numbers of different kinds are one key if they are equal.
* `Value.keyFault`: why a value cannot be a key.
* `Entries.put`, `Entries.get?`: an entry of a dictionary. A key that is there already keeps its place
  and takes the new value; a new key comes last.
* `Entries.named`: the entries of a dictionary whose keys are texts.
* `Value.assign`, `append`, `entry`, `pairs`, `keys`, `values`: the containers as the builder uses them.
-/

namespace SqlDraft

/-! ## Keys -/

/-- Whether two numbers are equal, whatever their kinds. -/
def sameNumber (a b : Value) : Bool :=
  match a.scaled?, b.scaled? with
  | some x, some y => x.equals y
  | _, _ => false

/-- An infinity, with its sign. -/
def infinitySign? : Value → Option Bool
  | .float x =>
    match x.form with
    | .infinite negative => some negative
    | _ => none
  | .decimal (.infinite negative) => some negative
  | _ => none

/-- Whether two moments are one: the same numbers if no offset is known, the same instant if both are. -/
def sameMoment (a b : Moment) : Bool :=
  a.offset.isSome == b.offset.isSome && a.instant == b.instant && a.microsecond == b.microsecond

namespace Value

mutual

/-- Whether two keys are one. -/
def sameKey : Value → Value → Bool
  | null, null => true
  | text s, text t => s == t
  | bytes bs, bytes cs => bs == cs
  | tuple xs, tuple ys => sameKeys xs ys
  | date d, date e => d == e
  | moment m, moment n => sameMoment m n
  | a, b =>
    sameNumber a b || ((infinitySign? a).isSome && infinitySign? a == infinitySign? b)

/-- Whether two lists of keys are one, key by key. -/
def sameKeys : List Value → List Value → Bool
  | [], [] => true
  | x :: xs, y :: ys => sameKey x y && sameKeys xs ys
  | _, _ => false

end

mutual

/-- Why a value cannot be a key. -/
def keyFault : Value → Option Fault
  | list _ => some (.unhashable .list)
  | dict _ => some (.unhashable .dict)
  | decimal (.nan _ true _) => some .unhashableNumber
  | tuple xs => keyFaults xs
  | _ => none

/-- Why one of several values cannot be a key. -/
def keyFaults : List Value → Option Fault
  | [] => none
  | x :: xs => (keyFault x).or (keyFaults xs)

end

@[simp] theorem keyFault_text (s : String) : (text s).keyFault = none := rfl

@[simp] theorem sameKey_text (s t : String) : sameKey (text s) (text t) = (s == t) := rfl

end Value

/-! ## Entries -/

/-- The entries of a dictionary, in the order in which their keys came first. -/
abbrev Entries := List (Value × Value)

namespace Entries

/-- Sets an entry: in its place if the key is there, else at the end. -/
def put (k v : Value) : Entries → Entries
  | [] => [(k, v)]
  | e :: es => if e.1.sameKey k then (e.1, v) :: es else e :: put k v es

/-- The value of a key. -/
def get? (k : Value) (es : Entries) : Option Value :=
  (es.find? fun e => e.1.sameKey k).map Prod.snd

/-- Entries set one after the other. -/
def ofPairs (ps : List (Value × Value)) : Entries := ps.foldl (fun es p => es.put p.1 p.2) []

@[simp] theorem put_nil (k v : Value) : put k v [] = [(k, v)] := rfl

/-- Entries whose keys are texts. -/
def named (fs : List (String × Value)) : Entries := fs.map fun f => (.text f.1, f.2)

theorem get?_named (key : String) (fs : List (String × Value)) : get? (.text key) (named fs) = fs.lookup key := by
  induction fs with
  | nil => rfl
  | cons f fs ih =>
    rw [get?, named, List.map_cons, List.find?_cons, Value.sameKey_text, List.lookup_cons, BEq.comm]
    cases key == f.1 with
    | true => rfl
    | false => exact ih

end Entries

/-! ## Containers -/

namespace Value

/-- The largest position that fits a word. -/
def positionLimit : Int := Nat.pow 2 63

/-- Sets an entry of a list; a negative position counts from the end. -/
def assignAt (xs : List Value) (i : Int) (v : Value) : Except Fault Value :=
  if i < -positionLimit ∨ positionLimit ≤ i then .error .positionTooLarge
  else
    let j := if i < 0 then i + xs.length else i
    if 0 ≤ j ∧ j < xs.length then .ok (list (xs.set j.toNat v)) else .error .positionOutOfRange

/-- Sets an entry of a container. -/
def assign (container key v : Value) : Except Fault Value :=
  match container with
  | dict es =>
    match key.keyFault with
    | some f => .error f
    | none => .ok (dict (Entries.put key v es))
  | list xs =>
    match key with
    | int i => assignAt xs i v
    | bool b => assignAt xs (if b then 1 else 0) v
    | _ => .error (.wrongIndex .list key.kind)
  | _ => .error (.notAssignable container.kind)

/-- Adds an element to the end of a list. -/
def append (container v : Value) : Except Fault Value :=
  match container with
  | list xs => .ok (list (xs ++ [v]))
  | _ => .error (.noMember container.kind "append")

/-- The entry of a container under a name. -/
def entry (container : Value) (name : String) : Except Fault Value :=
  match container with
  | dict es =>
    match Entries.get? (text name) es with
    | some v => .ok v
    | none => .error (.missingKey (quotedText name))
  | list _ | tuple _ | text _ | bytes _ => .error (.wrongIndex container.kind .text)
  | _ => .error (.notSubscriptable container.kind)

theorem entry_named {fs : List (String × Value)} {key : String} {v : Value} :
    (dict (Entries.named fs)).entry key = .ok v ↔ fs.lookup key = some v := by
  rw [entry, Entries.get?_named]
  cases fs.lookup key with
  | none => exact ⟨by rintro ⟨⟩, by rintro ⟨⟩⟩
  | some w => exact ⟨fun h => congrArg some (Except.ok.inj h), fun h => congrArg Except.ok (Option.some.inj h)⟩

/-- The entry of a dictionary under a name, or nothing. -/
def entry? (container : Value) (name : String) : Except Fault Value :=
  match container with
  | dict es => .ok ((Entries.get? (text name) es).getD null)
  | _ => .error (.noMember container.kind "get")

/-- The entries of a dictionary. -/
def pairs : Value → Except Fault Entries
  | dict es => .ok es
  | v => .error (.noMember v.kind "items")

/-- The keys of a dictionary. -/
def keys : Value → Except Fault (List Value)
  | dict es => .ok (es.map Prod.fst)
  | v => .error (.noMember v.kind "keys")

/-- The values of a dictionary. -/
def values : Value → Except Fault (List Value)
  | dict es => .ok (es.map Prod.snd)
  | v => .error (.noMember v.kind "values")

end Value

end SqlDraft
