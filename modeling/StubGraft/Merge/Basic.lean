import StubGraft.Event
import StubGraft.Visitor.Model

/-!
# Merging visitor files

An edited visitor and its newly generated successor are merged: the new one decides which
stubs there are and in which order, the old one gives the body of every stub that both
have, and no import is lost.

Main notions:

* `equivalent`: two models have the same stubs with the same bodies;
* `merge`: the merged stubs and imports, and the stubs that are dropped;
* `summarize`: what a merge keeps, takes over, drops and carries;
* `pendingImports`: the import lines that the new file lacks.
-/

namespace StubGraft

/-- Whether two models have the same stubs with the same bodies, in any order. -/
def equivalent (a b : Model) : Bool :=
  a.stubs.size == b.stubs.size &&
    a.stubs.entries.all fun entry => b.stubs.body? entry.1 == some entry.2

/-- A merge of two models. -/
structure Merged where
  /-- The lines of the new file. -/
  lines : List Text
  /-- The stubs of the new file with the merged bodies. -/
  stubs : StubTable
  /-- The import lines of both files. -/
  imports : List Text

/-- The import lines of both files: those of the new one first, then the others of the old one. -/
def mergeImports (old new : Model) : List Text := Text.distinct (new.imports ++ old.imports)

/-- The stubs of the new file, each with its old body if it has one. -/
def mergeStubs (old new : Model) : StubTable :=
  new.stubs.mapBodies fun name body => (old.stubs.body? name).getD body

/-- The old stubs that the new file does not have. -/
def droppedStubs (old new : Model) : List Text :=
  old.stubs.names.filter fun name => !new.stubs.contains name

/-- The merge of an edited and a new model, with a warning for each stub that is dropped. -/
def merge (old new : Model) : Merged × List Event :=
  (⟨new.lines, mergeStubs old new, mergeImports old new⟩,
    (droppedStubs old new).map .droppedStub)

/-- What a merge does, by name. -/
structure Summary where
  /-- The stubs that keep their old body. -/
  preserved : List Text
  /-- The stubs that only the new file has. -/
  adopted : List Text
  /-- The stubs that only the old file has. -/
  dropped : List Text
  /-- The import lines that only the old file has. -/
  carriedImports : List Text
  deriving DecidableEq, Repr

/-- What merging two models does. -/
def summarize (old new : Model) : Summary where
  preserved := new.stubs.names.filter fun name => old.stubs.contains name
  adopted := new.stubs.names.filter fun name => !old.stubs.contains name
  dropped := droppedStubs old new
  carriedImports := old.imports.filter fun line => !new.imports.contains line

/-- The merged import lines that are no line of the new file. -/
def pendingImports (new : Model) (merged : Merged) : List Text :=
  merged.imports.filter fun line => !new.lines.contains line

end StubGraft
