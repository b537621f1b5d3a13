/-!
# Ranges of code points

A class of characters is a list of closed ranges of code points.

* `Ranges.contains`: whether a code point lies in one of the ranges.
* `Ranges.find?`: the range that holds a code point.
-/

namespace SqlDraft

/-- Closed ranges of code points, in increasing order. -/
abbrev Ranges := List (Nat × Nat)

namespace Ranges

/-- Whether a code point lies in one of the ranges. -/
def contains (rs : Ranges) (n : Nat) : Bool := rs.any fun r => r.1 ≤ n && n ≤ r.2

/-- The first range that holds a code point. -/
def find? (rs : Ranges) (n : Nat) : Option (Nat × Nat) :=
  List.find? (fun r => r.1 ≤ n && n ≤ r.2) rs

theorem contains_iff (rs : Ranges) (n : Nat) :
    rs.contains n = true ↔ ∃ r ∈ rs, r.1 ≤ n ∧ n ≤ r.2 := by
  simp [contains]

theorem find?_isSome (rs : Ranges) (n : Nat) : (rs.find? n).isSome = rs.contains n := by
  rw [find?, contains, Bool.eq_iff_iff, List.find?_isSome, List.any_eq_true]

end Ranges

end SqlDraft
