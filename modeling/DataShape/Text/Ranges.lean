/-!
# Sets of characters given by ranges

A property of characters that a standard fixes is kept as a table of code point ranges, both ends
included, in ascending order.
-/

namespace DataShape

/-- A table of code point ranges, both ends included. -/
abbrev CodeRanges := List (Nat × Nat)

/-- The character lies in one of the ranges. -/
def CodeRanges.contains (table : CodeRanges) (c : Char) : Bool :=
  table.any fun range => range.1 ≤ c.toNat && c.toNat ≤ range.2

end DataShape
