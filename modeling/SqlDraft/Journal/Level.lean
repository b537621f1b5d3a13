import SqlDraft.Number.Digits

/-!
# Levels

Every message has a level, a number that grows with its weight.

* `Level`: the levels; a logger at level zero has none of its own.
* `Level.name`: the name of a level.
* `Level.ofName?`: the level a name stands for.
-/

namespace SqlDraft

/-- How much a message weighs. -/
structure Level where
  rank : Int
  deriving DecidableEq

namespace Level

/-- The level of a logger that has none of its own. -/
def unset : Level := ⟨0⟩

/-- Details for those who look for a fault. -/
def debug : Level := ⟨10⟩

/-- What happens in the usual course. -/
def info : Level := ⟨20⟩

/-- Something unexpected that did no harm. -/
def warning : Level := ⟨30⟩

/-- Something that failed. -/
def error : Level := ⟨40⟩

/-- Something that makes all else fail. -/
def critical : Level := ⟨50⟩

/-- The levels that have names, by name. Two levels have a second name. -/
def named : List (String × Level) :=
  [("CRITICAL", critical), ("FATAL", critical), ("ERROR", error), ("WARNING", warning),
    ("WARN", warning), ("INFO", info), ("DEBUG", debug), ("NOTSET", unset)]

/-- The level a name stands for. -/
def ofName? (name : String) : Option Level := named.lookup name

/-- The name of a level; other levels are named by their number. -/
def name (l : Level) : String :=
  match named.find? fun e => e.2 = l with
  | some e => e.1
  | none => "Level " ++ integerText l.rank

end Level

end SqlDraft
