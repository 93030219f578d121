import StubGraft.Text.Basic

/-!
# Lexical conventions

What the scanner has to know of the language of a visitor file: which lines declare a
stub, which lines are imports, and how many lines the generated header has.
-/

namespace StubGraft

/-- The lexical conventions of visitor files. -/
structure Convention where
  /-- Whether a line declares a stub. -/
  declares : Text → Bool
  /-- What a line has to contain to be an import. -/
  marker : Text
  /-- How many lines at the top of a file belong to its header. -/
  headerLines : Nat

namespace Convention

/-- Whether a line is an import. -/
def isImport (convention : Convention) (line : Text) : Bool :=
  Text.occursIn convention.marker line

end Convention

/-- The text without its last character, if that is a space or a tab. -/
def dropTrailingBlank (t : Text) : Text :=
  match t.getLast? with
  | some c => if c = ' ' ∨ c = '\t' then t.dropLast else t
  | none => t

/-- The name of the stub that a line declares: what stands before its first equals sign, less one
blank at the end. -/
def stubName (line : Text) : Text := dropTrailingBlank (line.takeWhile (· ≠ '='))

end StubGraft
