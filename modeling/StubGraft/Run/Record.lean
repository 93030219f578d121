import StubGraft.Error
import StubGraft.Merge.Basic
import StubGraft.Run.Stage

/-!
# The record of a run

A run keeps its paths, the stages it has entered, and what its merge did.

Main notions:

* `Run`: the record;
* `Run.stage`, `Run.outcome`: where a run stands and what it has come to;
* `Run.enter`: the run at its next stage, and the event of going there.
-/

namespace StubGraft

/-- The record of a run. -/
structure Run where
  /-- The path of the grammar. -/
  grammar : Path
  /-- The path of the visitor. -/
  visitor : Path
  /-- The path of the backup, once there is something to merge. -/
  backup : Option Path
  /-- The stages entered, in order. -/
  history : List Stage
  /-- What the merge did. -/
  summary : Option Summary
  deriving DecidableEq, Repr

namespace Run

/-- A run that has done nothing yet. -/
def start (grammar visitor : Path) : Run := ⟨grammar, visitor, none, [.idle], none⟩

/-- The latest of some stages. -/
def latest (history : List Stage) : Except Error Stage :=
  match history.getLast? with
  | some stage => .ok stage
  | none => .error .emptyHistory

/-- The stage that a run is at. -/
def stage (run : Run) : Except Error Stage := latest run.history

/-- What a run has come to: its latest stage before it was done. -/
def outcome (run : Run) : Except Error Stage := latest (run.history.filter (· ≠ .done))

/-- The run at its next stage, and the event of going there. -/
def enter (run : Run) (next : Stage) : Except Error (Run × Event) :=
  match run.stage with
  | .error e => .error e
  | .ok current =>
    .ok ({ run with history := run.history ++ [next] }, .entered run.visitor.name current next)

end Run

/-- The stage that a value names. -/
def Stage.ofValue (value : Value) : Except Error Stage :=
  match value with
  | .text t =>
    match Stage.ofName? t.toStr with
    | some stage => .ok stage
    | none => .error (.unknownStage value)
  | _ => .error (.unknownStage value)

end StubGraft
