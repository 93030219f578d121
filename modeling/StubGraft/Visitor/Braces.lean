import StubGraft.Text.Basic

/-!
# Braces

Stub bodies are delimited by counting braces.  Every brace counts, also one inside a
string or a comment: this is a count of delimiters and no parser.

Main notions:

* `opens`, `closes`, `net`: the braces of a text;
* `closing?`: the line at whose end all braces opened since the start are closed again.
-/

namespace StubGraft.Braces

/-- How many opening braces a text has. -/
def opens (t : Text) : Nat := t.count '{'

/-- How many closing braces a text has. -/
def closes (t : Text) : Nat := t.count '}'

/-- The opening braces less the closing ones. -/
def net (t : Text) : Int := (opens t : Int) - (closes t : Int)

/-- The first line at whose end a brace has been opened and the depth is zero, when the lines are
entered at the given depth. -/
def closingFrom (depth : Int) (opened : Bool) : List Text → Option Nat
  | [] => none
  | line :: lines =>
    let opened := opened || decide (0 < opens line)
    let depth := depth + net line
    if opened && depth == 0 then some 0
    else (closingFrom depth opened lines).map (· + 1)

/-- The offset of the closing line of a declaration on the first of the lines. -/
def closingOffset? (lines : List Text) : Option Nat := closingFrom 0 false lines

/-- The index of the closing line of a declaration at index `start`. -/
def closing? (lines : List Text) (start : Nat) : Option Nat :=
  (closingOffset? (lines.drop start)).map (start + ·)

/-- Whether a text closes as many braces as it opens. -/
def balanced (t : Text) : Bool := opens t == closes t

end StubGraft.Braces
