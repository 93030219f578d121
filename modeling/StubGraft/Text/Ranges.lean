import StubGraft.Text.Basic

/-!
# Ranges of code points

A property of characters is given as a table of inclusive ranges of code points.
-/

namespace StubGraft.Text

/-- A table of inclusive ranges of code points, in increasing order. -/
abbrev Ranges := List (Nat × Nat)

/-- Whether a code point lies in one of the ranges. -/
def Ranges.covers (table : Ranges) (n : Nat) : Bool :=
  table.any fun range => range.1 ≤ n && n ≤ range.2

end StubGraft.Text
