import StubGraft.Visitor.StubTable

/-!
# Models of visitor files

A model holds the lines of a visitor file and what was found in them: the stubs with
their bodies, where each stub stands, and the import lines.
-/

namespace StubGraft

/-- Where a stub stands in its file. -/
structure Span where
  /-- The name of the stub. -/
  name : Text
  /-- The index of its declaring line. -/
  first : Nat
  /-- The index of its closing line. -/
  last : Nat
  deriving DecidableEq, Repr

/-- The structure of a visitor file. -/
structure Model where
  /-- All lines. -/
  lines : List Text
  /-- The stubs in order of declaration. -/
  stubs : StubTable
  /-- The import lines in order of first appearance. -/
  imports : List Text
  /-- Where the stubs stand, in order of declaration. -/
  spans : List Span

end StubGraft
