/-!
# Stages of a run

A run starts idle and enters one stage after the other.  The stages it has entered are its
history.
-/

namespace StubGraft

/-- A stage of a run. -/
inductive Stage where
  /-- Nothing has been done yet. -/
  | idle
  /-- The edited visitor has been copied. -/
  | backedUp
  /-- The tool has written a new visitor. -/
  | regenerated
  /-- The stub bodies did not differ. -/
  | skipped
  /-- The stub bodies have been merged. -/
  | merged
  /-- The run has ended well. -/
  | done
  /-- The run has ended with an error. -/
  | failed
  deriving DecidableEq, Repr

namespace Stage

/-- All stages. -/
def all : List Stage := [.idle, .backedUp, .regenerated, .skipped, .merged, .done, .failed]

/-- The name of a stage. -/
def name : Stage → String
  | .idle => "idle"
  | .backedUp => "backed_up"
  | .regenerated => "regenerated"
  | .skipped => "skipped"
  | .merged => "merged"
  | .done => "done"
  | .failed => "failed"

/-- The stage of a name. -/
def ofName? (name : String) : Option Stage := all.find? fun stage => stage.name == name

end Stage
end StubGraft
