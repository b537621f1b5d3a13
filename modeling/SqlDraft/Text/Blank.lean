import SqlDraft.Text.Ranges

/-!
# Blank characters

The white space of Unicode together with the four information separators.
-/

namespace SqlDraft

/-- White space of Unicode and the separators U+001C to U+001F. -/
def blankRanges : Ranges :=
  [(9, 13), (28, 31), (32, 32), (133, 133), (160, 160), (5760, 5760), (8192, 8202), (8232, 8233),
   (8239, 8239), (8287, 8287), (12288, 12288)]

/-- A character that separates words. The zero-width space and the byte-order mark are none. -/
def isBlank (c : Char) : Bool := blankRanges.contains c.toNat

/-- The six blanks that end a word in an ASCII text: tab to carriage return, and the space. -/
def isAsciiBlank (c : Char) : Bool := c == ' ' || (9 ≤ c.toNat && c.toNat ≤ 13)

end SqlDraft
