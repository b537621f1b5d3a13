/-!
# Kinds of values

What a value can be, and the name each kind goes by in a message.
-/

namespace SqlDraft

/-- The kinds of values a caller can hand over. -/
inductive Kind
  | null | bool | int | float | decimal | text | list | tuple | dict | bytes | date | datetime
  deriving DecidableEq

namespace Kind

/-- The name of a kind in a message. -/
def label : Kind → String
  | null => "NoneType"
  | bool => "bool"
  | int => "int"
  | float => "float"
  | decimal => "decimal.Decimal"
  | text => "str"
  | list => "list"
  | tuple => "tuple"
  | dict => "dict"
  | bytes => "bytes"
  | date => "datetime.date"
  | datetime => "datetime.datetime"

/-- The name of a kind without that of the family it belongs to. -/
def shortLabel : Kind → String
  | decimal => "Decimal"
  | date => "date"
  | datetime => "datetime"
  | k => k.label

end Kind

end SqlDraft
