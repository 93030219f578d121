import StubGraft.Text.Basic

/-!
# Paths

A path is read from a text without looking at any file: an anchor and the parts between
the slashes.  Empty parts and single dots are left out; double dots stay, since what they
mean depends on the files.

Main notions:

* `Path.ofText`, `Path.toText`: reading and writing paths;
* `name`, `suffix`, `parent`: the pieces of a path;
* `child`, `withName?`: a path beside or below another one;
* `resolve`: the absolute path without double dots.
-/

namespace StubGraft

/-- Where a path starts. -/
inductive Anchor where
  /-- At the working directory. -/
  | here
  /-- At the root. -/
  | root
  /-- At the root, written with two slashes. -/
  | doubleRoot
  deriving DecidableEq, Repr

/-- The slashes an anchor is written with. -/
def Anchor.toText : Anchor → Text
  | .here => []
  | .root => ['/']
  | .doubleRoot => ['/', '/']

/-- An anchor and the parts after it. -/
structure Path where
  /-- Where the path starts. -/
  anchor : Anchor
  /-- The parts from there on. -/
  parts : List Text
  deriving DecidableEq, Repr

namespace Path

/-- The parts of a text between slashes, without empty ones and single dots. -/
def partsOf (t : Text) : List Text :=
  (Text.pieces '/' t).filter fun part => part ≠ [] ∧ part ≠ ['.']

/-- The anchor of a text: exactly two slashes at the start are kept apart from one or more. -/
def anchorOf (t : Text) : Anchor :=
  match (t.takeWhile (· = '/')).length with
  | 0 => .here
  | 2 => .doubleRoot
  | _ => .root

/-- The path that a text writes. -/
def ofText (t : Text) : Path := ⟨anchorOf t, partsOf t⟩

/-- The text of a path; the path without anchor and parts is a dot. -/
def toText (p : Path) : Text :=
  match p.anchor, p.parts with
  | .here, [] => ['.']
  | anchor, parts => anchor.toText ++ Text.join ['/'] parts

/-- The last part of a path, empty if it has none. -/
def name (p : Path) : Text := p.parts.getLast?.getD []

/-- The path without its last part. -/
def parent (p : Path) : Path := ⟨p.anchor, p.parts.dropLast⟩

/-- The path with one more part. -/
def child (p : Path) (part : Text) : Path := ⟨p.anchor, p.parts ++ [part]⟩

/-- The suffix of a name: its last dot and what follows, unless the dot is the first or the last
character. -/
def suffixOf (name : Text) : Text :=
  match Text.splitLast? '.' name with
  | some (_ :: _, c :: after) => '.' :: c :: after
  | _ => []

/-- The suffix of the last part. -/
def suffix (p : Path) : Text := suffixOf p.name

/-- Why the last part of a path cannot be replaced. -/
inductive NameFault where
  /-- The path has no last part. -/
  | emptyName (p : Path)
  /-- The new part is not a single part. -/
  | invalidName (name : Text)
  deriving DecidableEq, Repr

/-- Whether a text can stand as the last part of a path: read as a path it has one part and nothing
else, and no slash ends it. -/
def isPart (t : Text) : Bool :=
  t.getLast? ≠ some '/' && anchorOf t == .here && (partsOf t).length == 1

/-- The path with its last part replaced. -/
def withName? (p : Path) (name : Text) : Except NameFault Path :=
  if p.parts.isEmpty then .error (.emptyName p)
  else if isPart name then .ok (p.parent.child name)
  else .error (.invalidName name)

/-- The names that parts lead to from a list of names; a double dot goes one up, and at the top
stays there. -/
def descend (start : List Text) (parts : List Text) : List Text :=
  parts.foldl
    (fun names part => if part = ['.', '.'] then names.dropLast else names ++ [part]) start

/-- The absolute path without double dots that a path means in a working directory. -/
def resolve (workdir : List Text) (p : Path) : Path :=
  ⟨.root, descend (if p.anchor = .here then workdir else []) p.parts⟩

end Path
end StubGraft
