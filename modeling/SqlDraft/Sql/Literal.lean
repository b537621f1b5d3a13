import SqlDraft.Value.Text

/-!
# Literals

* `enquote`: a text as an SQL string literal: between single quotes, with every single quote doubled.
* `quote`: a value as an SQL literal: `NULL`, `1` and `0`, a bare number, or a string literal.
-/

namespace SqlDraft

/-- A text with every single quote written twice. -/
def doubleQuotes (cs : List Char) : List Char :=
  cs.flatMap fun c => if c = singleQuote then [c, c] else [c]

/-- A text as an SQL string literal. -/
def enquote (s : String) : String :=
  String.ofList (singleQuote :: doubleQuotes s.toList ++ [singleQuote])

/-- A value as an SQL literal. -/
def quote : Value → Except Fault String
  | .null => .ok "NULL"
  | .bool b => .ok (if b then "1" else "0")
  | .int i => (Value.int i).shown
  | .float x => (Value.float x).shown
  | .decimal x => (Value.decimal x).shown
  | v => v.shown.map enquote

@[simp] theorem doubleQuotes_nil : doubleQuotes [] = [] := rfl

theorem doubleQuotes_append (cs ds : List Char) :
    doubleQuotes (cs ++ ds) = doubleQuotes cs ++ doubleQuotes ds := by
  simp [doubleQuotes]

theorem doubleQuotes_cons_quote (cs : List Char) :
    doubleQuotes (singleQuote :: cs) = singleQuote :: singleQuote :: doubleQuotes cs := by
  simp [doubleQuotes]

theorem doubleQuotes_cons_of_ne {c : Char} (h : c ≠ singleQuote) (cs : List Char) :
    doubleQuotes (c :: cs) = c :: doubleQuotes cs := by
  simp [doubleQuotes, h]

@[simp] theorem quote_text (s : String) : quote (.text s) = .ok (enquote s) := rfl

end SqlDraft
