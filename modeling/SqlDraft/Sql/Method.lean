import SqlDraft.Signature
import SqlDraft.Sql.Session

/-!
# Methods

The calls of a session by name. A method makes a call of the arguments it is given, in order; a number of
arguments that it does not take is a fault.

* `Method`, `Method.ofName?`: the methods of a query.
* `Loader`, `Loader.ofName?`: what a query is executed by.
* `Method.call`, `Loader.call`: the call of some arguments.
-/

namespace SqlDraft

/-- A method of a query. -/
structure Method where
  name : String
  /-- The parameters that a call must fill. -/
  required : List String
  /-- How many further parameters a call can fill. -/
  optional : Nat
  make : List Value → Call

namespace Method

/-- An argument that is left out where a text is expected. -/
def blank : Value := .text ""

/-- A method that adds a fragment. -/
def adding (name : String) (make : Value → Call) : Method :=
  ⟨name, [], 1, fun args => make (args.getD 0 blank)⟩

/-- A method that adds a join of one type. -/
def joining (name : String) (type : Value) : Method :=
  ⟨name, ["table", "alias", "condition"], 0, fun args =>
    .addJoin (args.getD 0 .null) (args.getD 1 .null) (args.getD 2 .null) type⟩

/-- A method that assigns values. -/
def assigning (name : String) (a : Assignment) : Method :=
  ⟨name, ["field", "value"], 1, fun args =>
    .assign a (args.getD 0 .null) (args.getD 1 .null) (args.getD 2 (.bool false)).truthy⟩

/-- A method that prepares the query, and clears it if asked to. -/
def preparing (name : String) (make : Bool → Call) : Method :=
  ⟨name, [], 1, fun args => make (args.getD 0 (.bool false)).truthy⟩

/-- All methods. -/
def all : List Method :=
  [⟨"clear", [], 0, fun _ => .clear⟩,
    ⟨"add_table", ["name"], 1, fun args => .addTable (args.getD 0 .null) (args.getD 1 blank)⟩,
    ⟨"add_query", ["field"], 0, fun args => .addFields (args.getD 0 .null)⟩,
    adding "add_where" .addPredicates,
    adding "add_order" .addOrder,
    adding "add_group" .addGroup,
    ⟨"set_limit", ["limit"], 0, fun args => .setLimit (args.getD 0 .null)⟩,
    ⟨"add_join", ["table", "alias", "condition"], 1, fun args =>
      .addJoin (args.getD 0 .null) (args.getD 1 .null) (args.getD 2 .null)
        (args.getD 3 defaultJoinType)⟩,
    joining "left_join" JoinType.left.toValue,
    joining "right_join" JoinType.right.toValue,
    joining "inner_join" JoinType.inner.toValue,
    assigning "add_insert" .insert,
    assigning "add_replace" .replace,
    assigning "add_update" .update,
    ⟨"set_delete", ["table"], 0, fun args => .setDelete (args.getD 0 .null)⟩,
    preparing "prepare" .prepare,
    preparing "prepare_select" (.prepareAs .select),
    preparing "prepare_insert" (.prepareAs .insert),
    preparing "prepare_replace" (.prepareAs .replace),
    preparing "prepare_update" (.prepareAs .update),
    preparing "prepare_delete" (.prepareAs .delete),
    ⟨"db_fn_now", [], 0, fun _ => .now⟩,
    ⟨"db_fn_now_with_tz", [], 0, fun _ => .currentMoment⟩,
    ⟨"db_fn_date_diff", [], 2, fun args => .dateDifference (args.getD 0 blank) (args.getD 1 blank)⟩,
    ⟨"db_fn_date_add", ["date"], 2, fun args =>
      .dateAddition (args.getD 0 .null) (args.getD 1 defaultInterval) (args.getD 2 defaultUnit)⟩]

/-- The method of a name. -/
def ofName? (name : String) : Option Method := all.find? fun m => m.name == name

/-- The signature of a method, which is called on a query. -/
def signature (m : Method) : Signature := ⟨"Query." ++ m.name, m.required, m.optional, 1, 0⟩

/-- The call of some arguments. -/
def call (m : Method) (args : List Value) : Except Fault Call := do
  m.signature.check args.length
  .ok (m.make args)

end Method

/-- What executes a query on a connection. -/
structure Loader where
  name : String
  /-- How many parameters a call can fill. -/
  optional : Nat
  make : Option String → Reply → List Value → Call

namespace Loader

/-- All loaders. -/
def all : List Loader :=
  [⟨"execute_query", 1, fun given reply args =>
      .execute given (args.getD 0 (.bool true)).truthy reply⟩,
    ⟨"load_list", 1, fun given reply args => .loadEntries given (args.getD 0 .null) reply⟩,
    ⟨"load_hash", 0, fun given reply _ => .loadFirst given reply⟩,
    ⟨"load_result", 0, fun given reply _ => .loadCell given reply⟩,
    ⟨"load_column", 0, fun given reply _ => .loadColumn given reply⟩]

/-- The loader of a name. -/
def ofName? (name : String) : Option Loader := all.find? fun l => l.name == name

/-- The signature of a loader, which is given a query and a connection or nothing in its place. -/
def signature (l : Loader) : Signature := ⟨l.name, [], l.optional, 2, 1⟩

/-- The call of some arguments. -/
def call (l : Loader) (given : Option String) (reply : Reply) (args : List Value) :
    Except Fault Call := do
  l.signature.check args.length
  .ok (l.make given reply args)

end Loader

end SqlDraft
