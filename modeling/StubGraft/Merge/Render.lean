import StubGraft.Merge.Basic
import StubGraft.Text.Lines

/-!
# Rendering a merge

The lines of the new file are copied in one pass.  Between the declaring and the closing
line of each stub stands its merged body, and the pending imports stand before the first
line outside of a stub at or after the header, or at the end of a file that has no such line.
This is the function `serialize`.

Behind a stub the pass goes on after the closing line of its span, wherever that is.  In a
model that no scan produces it can come back to a line; as a line decides alone where the
pass goes on, it then never ends.

Main notions:

* `RenderError`: what a model that no scan produces can lack;
* `Pass`, `Pass.round`: where the pass stands, and what it does there;
* `renderLines`, `render`: the merged file.
-/

namespace StubGraft

/-- Why a model cannot be rendered. -/
inductive RenderError where
  /-- A span names a stub that the model does not record. -/
  | missingStub (name : Text)
  /-- A span ends after the last line. -/
  | lineOutOfRange
  /-- The spans lead back to a line that was passed before, so the pass would never end. -/
  | endless
  deriving DecidableEq, Repr

/-- The span that starts at a line; of several the last one. -/
def spanAt? (spans : List Span) (index : Nat) : Option Span :=
  (spans.filter fun span => span.first = index).getLast?

/-- The body that a stub gets and the closing line of its span. -/
def renderStub (new : Model) (merged : Merged) (span : Span) :
    Except RenderError (List Text × Text) :=
  match new.stubs.body? span.name with
  | none => .error (.missingStub span.name)
  | some generated =>
    match new.lines[span.last]? with
    | none => .error .lineOutOfRange
    | some closer => .ok ((merged.stubs.body? span.name).getD generated, closer)

/-- Where the pass over the lines of the new file stands. -/
structure Pass where
  /-- The index of the next line. -/
  index : Nat
  /-- The imports that are still to be placed. -/
  pending : List Text
  deriving DecidableEq, Repr

namespace Pass

/-- The pass before its first round. -/
def start (new : Model) (merged : Merged) : Pass := ⟨0, pendingImports new merged⟩

/-- A round of the pass: the lines that it writes and where the pass stands then.  There is no
round behind the last line. -/
def round (new : Model) (merged : Merged) (headerLines : Nat) (pass : Pass) :
    Except RenderError (Option (List Text × Pass)) :=
  match new.lines[pass.index]? with
  | none => .ok none
  | some line =>
    let now := if headerLines ≤ pass.index then pass.pending else []
    let later := if headerLines ≤ pass.index then [] else pass.pending
    match spanAt? new.spans pass.index with
    | none => .ok (some (now ++ [line], ⟨pass.index + 1, later⟩))
    | some span =>
      match renderStub new merged span with
      | .error e => .error e
      | .ok (body, closer) =>
        .ok (some (now ++ line :: (body ++ [closer]), ⟨span.last + 1, later⟩))

end Pass

/-- Renders the lines from where a pass stands, in the given number of rounds at most. -/
def renderFrom (new : Model) (merged : Merged) (headerLines : Nat) (rounds : Nat) (pass : Pass) :
    Except RenderError (List Text) :=
  match pass.round new merged headerLines with
  | .error e => .error e
  | .ok none => .ok pass.pending
  | .ok (some (written, next)) =>
    match rounds with
    | 0 => .error .endless
    | k + 1 => (renderFrom new merged headerLines k next).map (written ++ ·)

/-- The lines of the merged file.  A pass of more rounds than there are lines has come to a line
twice. -/
def renderLines (new : Model) (merged : Merged) (headerLines : Nat) :
    Except RenderError (List Text) :=
  renderFrom new merged headerLines new.lines.length (Pass.start new merged)

/-- The text of the merged file. -/
def render (new : Model) (merged : Merged) (headerLines : Nat) : Except RenderError Text :=
  (renderLines new merged headerLines).map Text.joinLines

end StubGraft
