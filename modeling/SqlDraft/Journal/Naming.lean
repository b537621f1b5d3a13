import SqlDraft.Journal.Level

/-!
# Names of loggers

Loggers are named by words with points between them. The root logger has two names: the empty one and
`root`. A logger without a level of its own takes that of the next logger above it that was asked for.
A logger whose name is the start of `root` is above those loggers only that were asked for after it.

* `isRootName`, `startsRootName`: whether a name is that of the root logger, or the start of it.
* `enclosing`: the names above a name, nearest first.
* `Levels`: the loggers that were asked for, in that order, with their levels.
* `Levels.above?`: the next logger above a logger.
* `Levels.effective`: the level that counts for a logger.
-/

namespace SqlDraft

/-- The name under which the root logger writes. -/
def rootName : String := "root"

/-- Whether a name is that of the root logger. -/
def isRootName (name : String) : Bool := name == "" || name == rootName

/-- Whether a name is the start of the name of the root logger. -/
def startsRootName (name : String) : Bool := name.toList.isPrefixOf rootName.toList

/-! ## Names above a name -/

/-- What stands before the last point of a name; nothing if it starts with its only point. -/
def beforeLastPoint? (cs : List Char) : Option (List Char) :=
  match cs.reverse.dropWhile (· != '.') with
  | [] => none
  | [_] => none
  | _ :: rest => some rest.reverse

theorem length_beforeLastPoint {cs ds : List Char} (h : beforeLastPoint? cs = some ds) :
    ds.length < cs.length := by
  unfold beforeLastPoint? at h
  have hs := (List.dropWhile_sublist (l := cs.reverse) (· != '.')).length_le
  split at h <;> simp_all
  subst h
  simp only [List.length_reverse]
  omega

/-- The names above a name, nearest first. Of two points side by side the left one ends no name. -/
def enclosing (cs : List Char) : List (List Char) :=
  match _h : beforeLastPoint? cs with
  | none => []
  | some ds => ds :: enclosing ds.dropLast
termination_by cs.length
decreasing_by
  have := length_beforeLastPoint _h
  simp only [List.length_dropLast]
  omega

/-! ## Levels -/

/-- The loggers that were asked for, in that order, with their levels. -/
abbrev Levels := List (String × Level)

namespace Levels

/-- The level of a logger's own. -/
def own (ls : Levels) (name : String) : Level := (ls.lookup name).getD .unset

/-- Sets the level of a logger. -/
def set (name : String) (l : Level) : Levels → Levels
  | [] => [(name, l)]
  | e :: es => if e.1 = name then (name, l) :: es else e :: set name l es

/-- Notes that a logger was asked for. -/
def note (name : String) (ls : Levels) : Levels :=
  if (ls.lookup name).isSome then ls else ls.set name .unset

/-- The loggers that were asked for before a logger. -/
def before (ls : Levels) (name : String) : Levels := ls.takeWhile fun e => e.1 != name

/-- Whether a logger of an enclosing name is above a logger. -/
def isAbove (ls : Levels) (name enclosingName : String) : Bool :=
  ((if startsRootName enclosingName then ls.before name else ls).lookup enclosingName).isSome

/-- The next logger above a logger. -/
def above? (ls : Levels) (name : String) : Option String :=
  ((enclosing name.toList).map String.ofList).find? (ls.isAbove name)

/-- The level that counts for a logger, looked for in at most `steps` loggers before the root. -/
def effectiveWithin (ls : Levels) (root : Level) : Nat → String → Level
  | 0, _ => root
  | steps + 1, name =>
    if ls.own name ≠ .unset then ls.own name
    else
      match ls.above? name with
      | some above => effectiveWithin ls root steps above
      | none => root

/-- The level that counts for a logger. Every name above a name is shorter. -/
def effective (ls : Levels) (root : Level) (name : String) : Level :=
  effectiveWithin ls root (name.length + 1) name

theorem lookup_cons_of_ne {name other : String} (h : other ≠ name) (l : Level) (ls : Levels) :
    List.lookup other ((name, l) :: ls) = List.lookup other ls := by
  have : (other == name) = false := by simpa using h
  simp [List.lookup_cons, this]

theorem lookup_set (ls : Levels) (name other : String) (l : Level) :
    (ls.set name l).lookup other = if other = name then some l else ls.lookup other := by
  induction ls with
  | nil =>
    by_cases h : other = name
    · simp [set, h]
    · rw [set, lookup_cons_of_ne h, if_neg h]
  | cons e es ih =>
    obtain ⟨n, k⟩ := e
    by_cases hn : n = name
    · subst hn
      by_cases h : other = n
      · simp [set, h]
      · simp only [set, if_true, if_neg h, lookup_cons_of_ne h]
    · by_cases h : other = n
      · subst h
        simp [set, hn]
      · simp only [set, if_neg hn, lookup_cons_of_ne h, ih]

theorem own_set (ls : Levels) (name other : String) (l : Level) :
    (ls.set name l).own other = if other = name then l else ls.own other := by
  unfold own
  rw [lookup_set]
  split <;> rfl

end Levels

end SqlDraft
