import SqlDraft.Proofs.Consuming
import SqlDraft.Proofs.Outline
import SqlDraft.Proofs.Settled
import SqlDraft.Proofs.Writable

/-!
# What calls contribute to a statement

Calls whose arguments are texts add to a query step by step, in any order, some by overwriting what others
added. The statement they come to can be read off the calls, without running them.

* `Fragment`: texts alone or in groups.
* `Pairing`, `Pairing.pairsFor_eq`: values for fields, and the pairs that they come to.
* `Contribution`: the calls.
* `Contribution.tables` to `Contribution.kinds`: what one call contributes.
* `Collected.of`: what a sequence of calls contributes.
* `Collected.outline`, `Collected.kind`: the outline of the statement that this comes to, and its kind.
-/

namespace SqlDraft

/-! ## Fragments -/

/-- A list or a tuple. -/
inductive Container
  | list
  | tuple

/-- A container of values. -/
def Container.of : Container → List Value → Value
  | list => .list
  | tuple => .tuple

/-- An expression, or a group of expressions. -/
inductive Fragment
  | one (s : String)
  | group (c : Container) (ss : List String)

namespace Fragment

/-- A fragment as it is handed over. -/
def value : Fragment → Value
  | one s => .text s
  | group c ss => c.of (ss.map .text)

/-- The expressions of a fragment. -/
def texts : Fragment → List String
  | one s => [s]
  | group _ ss => ss

/-- Whether a fragment counts as present. -/
def present : Fragment → Bool
  | one s => s != ""
  | group _ ss => !ss.isEmpty

theorem truthy_value (f : Fragment) : f.value.truthy = f.present := by
  cases f with
  | one s => rfl
  | group c ss => cases c <;> cases ss <;> rfl

theorem flattenList_values (fs : List Fragment) :
    flattenList (fs.map value) = (fs.flatMap texts).map .text := by
  induction fs with
  | nil => rfl
  | cons f fs ih =>
    have hf : flattenList [f.value] = f.texts.map .text := by
      cases f with
      | one s => rfl
      | group c ss => cases c <;> simp [value, texts, Container.of, flattenList]
    rw [List.map_cons, ← List.singleton_append, flattenList_append, hf, ih, List.flatMap_cons,
      List.map_append]

end Fragment

/-! ## Pairings -/

/-- A value for a field, or values for the fields in a container. -/
inductive Pairing
  | one (field : String) (v : Value)
  | all (c : Container) (names : List String) (values : Value)

namespace Pairing

/-- The fields as they are handed over. -/
def fields : Pairing → Value
  | one field _ => .text field
  | all c names _ => c.of (names.map .text)

/-- The values as they are handed over. -/
def values : Pairing → Value
  | one _ v => v
  | all _ _ values => values

/-- The fields with their values. A container without a value for each field gives none. -/
def pairs : Pairing → List (String × Value)
  | one field v => [(field, v)]
  | all _ names (.list vs) | all _ names (.tuple vs) =>
    if vs.length = names.length then names.zip vs else []
  | _ => []

/-- The expression that stands for a value: a raw one as it is, else its literal. -/
def expressionOf (raw : Bool) (v : Value) : Value := if raw then v else .text v.literal

/-- The fields that have a name, with the expressions that stand for their values. -/
def expressions (w : Pairing) (raw : Bool) : List (String × Value) :=
  (w.pairs.filter (·.1 ≠ "")).map fun e => (e.1, expressionOf raw e.2)

theorem pairsFor_containers (c d : Container) (fs vs : List Value) :
    Query.pairsFor (c.of fs) (d.of vs) =
      .ok (if vs.length = fs.length then some (fs.zip vs) else none) := by
  have hlength : (c.of fs).length = .ok fs.length := by
    cases c <;> simp [Container.of, Value.length, Value.elements?]
  have helements : (c.of fs).elements = .ok fs := by
    cases c <;> rfl
  have hpairs : Query.pairsFor (c.of fs) (d.of vs) = (do
      let n ← (c.of fs).length
      if vs.length = n then .ok (some ((← (c.of fs).elements).zip vs)) else .ok none) := by
    cases c <;> cases d <;> rfl
  rw [hpairs, hlength, helements]
  by_cases h : vs.length = fs.length <;> simp [h]

/-- Fields and values that are handed over are taken for the pairs. -/
theorem pairsFor_eq (w : Pairing) :
    ∃ o, Query.pairsFor w.fields w.values = .ok o ∧
      o.getD [] = w.pairs.map fun e => (.text e.1, e.2) := by
  have hsequence (c d : Container) (names : List String) (vs : List Value) :
      ∃ o, Query.pairsFor (c.of (names.map .text)) (d.of vs) = .ok o ∧
        o.getD [] = (if vs.length = names.length then names.zip vs else []).map
          fun e => (.text e.1, e.2) := by
    refine ⟨_, pairsFor_containers c d (names.map .text) vs, ?_⟩
    rw [List.length_map]
    split
    · rw [Option.getD_some, List.zip_map_left]; rfl
    · rfl
  cases w with
  | one field v => exact ⟨_, rfl, rfl⟩
  | all c names values =>
    cases values with
    | list vs => exact hsequence c .list names vs
    | tuple vs => exact hsequence c .tuple names vs
    | _ => cases c <;> exact ⟨none, rfl, rfl⟩

end Pairing

/-! ## Calls -/

/-- A call that adds to a query, with texts where texts are expected; and a preparation, which adds
nothing. -/
inductive Contribution
  | table (name short : String)
  | fields (f : Fragment)
  | predicates (f : Fragment)
  | order (expression : String)
  | group (expression : String)
  | limit (v : Value)
  | join (name short condition type : String)
  | assign (a : Assignment) (w : Pairing) (raw : Bool)
  | delete (name : String)
  | prepare (p : Preparation)

namespace Contribution

/-- The call itself. -/
@[simp] def call : Contribution → Call
  | table name short => .addTable (.text name) (.text short)
  | fields f => .addFields f.value
  | predicates f => .addPredicates f.value
  | order expression => .addOrder (.text expression)
  | group expression => .addGroup (.text expression)
  | limit v => .setLimit v
  | join name short condition type =>
    .addJoin (.text name) (.text short) (.text condition) (.text type)
  | assign a w raw => .assign a w.fields w.values raw
  | delete name => .setDelete (.text name)
  | prepare .own => .prepare false
  | prepare (.of k) => .prepareAs k false

/-- An alias and the table it stands for, with the prefix `p`. A call without a name adds no table. -/
@[simp] def tables (p : String) : Contribution → List (String × String)
  | table name short => if name = "" then [] else [(orOther short name, p ++ name)]
  | delete name => if name = "" then [] else [(name, p ++ name)]
  | _ => []

@[simp] def fieldFragments : Contribution → List Fragment
  | fields f => [f].filter Fragment.present
  | _ => []

@[simp] def predicateFragments : Contribution → List Fragment
  | predicates f => [f].filter Fragment.present
  | _ => []

@[simp] def orders : Contribution → List String
  | order expression => [expression].filter (· ≠ "")
  | _ => []

@[simp] def groups : Contribution → List String
  | group expression => [expression].filter (· ≠ "")
  | _ => []

/-- A limit above zero. -/
@[simp] def limits : Contribution → List Int
  | limit v =>
    match Query.limitOf v with
    | .ok n => [n].filter (0 < ·)
    | .error _ => []
  | _ => []

@[simp] def joins (p : String) : Contribution → List JoinOutline
  | join name short condition type =>
    [⟨p ++ name, orOther short name, condition, type⟩]
  | _ => []

/-- Fields with the expressions that are assigned to them in a member. -/
@[simp] def writes (m : Member) : Contribution → List (String × Value)
  | assign a w raw => if a.member = m then w.expressions raw else []
  | _ => []

/-- The kind of statement that a call turns a query into. -/
@[simp] def kinds : Contribution → List StatementKind
  | assign a .. => [a.kind]
  | delete _ => [.delete]
  | _ => []

/-- No integer that the call writes into a literal has too many digits. -/
def Admissible : Contribution → Prop
  | assign _ w raw => raw = false → ∀ e ∈ w.pairs, e.1 ≠ "" → e.2.Writable
  | _ => True

instance (c : Contribution) : Decidable c.Admissible :=
  match c with
  | assign _ w raw =>
    inferInstanceAs (Decidable (raw = false → ∀ e ∈ w.pairs, e.1 ≠ "" → e.2.Writable))
  | table .. | fields _ | predicates _ | order _ | group _ | limit _ | join .. | delete _ | prepare _ =>
    isTrue trivial

end Contribution

/-! ## Sequences of calls -/

/-- What calls contribute, sort by sort, in the order of the calls. -/
structure Collected where
  tables : List (String × String)
  fields : List Fragment
  predicates : List Fragment
  joins : List JoinOutline
  groups : List String
  orders : List String
  limits : List Int
  insertions : List (String × Value)
  updates : List (String × Value)
  kinds : List StatementKind

namespace Collected

/-- What calls contribute, with the prefix `p`. -/
def of (p : String) (cs : List Contribution) : Collected where
  tables := cs.flatMap (Contribution.tables p)
  fields := cs.flatMap Contribution.fieldFragments
  predicates := cs.flatMap Contribution.predicateFragments
  joins := cs.flatMap (Contribution.joins p)
  groups := cs.flatMap Contribution.groups
  orders := cs.flatMap Contribution.orders
  limits := cs.flatMap Contribution.limits
  insertions := cs.flatMap (Contribution.writes .insertions)
  updates := cs.flatMap (Contribution.writes .updates)
  kinds := cs.flatMap Contribution.kinds

/-- What one more call contributes comes last. -/
@[simp] def add (p : String) (k : Collected) (c : Contribution) : Collected where
  tables := k.tables ++ c.tables p
  fields := k.fields ++ c.fieldFragments
  predicates := k.predicates ++ c.predicateFragments
  joins := k.joins ++ c.joins p
  groups := k.groups ++ c.groups
  orders := k.orders ++ c.orders
  limits := k.limits ++ c.limits
  insertions := k.insertions ++ c.writes .insertions
  updates := k.updates ++ c.writes .updates
  kinds := k.kinds ++ c.kinds

theorem of_append_singleton (p : String) (cs : List Contribution) (c : Contribution) :
    of p (cs ++ [c]) = (of p cs).add p c := by
  simp only [of, add, List.flatMap_append, List.flatMap_singleton]

/-- The last limit above zero. -/
@[simp] def limit (k : Collected) : Int := k.limits.getLastD 0

/-- The last kind of statement that is asked for. -/
@[simp] def kind (k : Collected) : StatementKind := k.kinds.getLastD .select

/-- The outline of the statement. Fragments, joins, groups and orders stand in the order in which they
came. An alias or a field stands where it came first, with the table or the expression that came last. -/
def outline (k : Collected) : Outline where
  tables := settled k.tables
  fields := k.fields.flatMap Fragment.texts
  predicates := k.predicates.flatMap Fragment.texts
  joins := k.joins
  groups := k.groups
  orders := k.orders
  limit := k.limit
  insertions := (settled k.insertions).map fun w => (w.1, w.2.plainText)
  updates := (settled k.updates).map fun w => (w.1, w.2.plainText)

/-- No integer that a statement writes has too many digits: neither its limit nor an integer in a value
that it assigns. -/
def Legible (k : Collected) : Member → Prop
  | .limit => withinDigitLimit k.limit = true
  | .insertions => ∀ w ∈ settled k.insertions, w.2.Writable
  | .updates => ∀ w ∈ settled k.updates, w.2.Writable
  | .slot _ => True

instance (k : Collected) (m : Member) : Decidable (k.Legible m) :=
  match m with
  | .limit => inferInstanceAs (Decidable (withinDigitLimit k.limit = true))
  | .insertions => inferInstanceAs (Decidable (∀ w ∈ settled k.insertions, w.2.Writable))
  | .updates => inferInstanceAs (Decidable (∀ w ∈ settled k.updates, w.2.Writable))
  | .slot _ => isTrue trivial

end Collected

end SqlDraft
