import StubGraft.Run.Record
import StubGraft.Run.Tool

/-!
# What a run changes

A run works on a disk, reports events, calls the tool and keeps its record.  All of it
outlives an error.

Main notions:

* `World`: the disk, the log, the calls of the tool and the record of the latest run;
* `Action`: steps on a world that may end in an error;
* `Action.onDisk`: disk operations as a step.
-/

namespace StubGraft

/-- What a run works on. -/
structure World where
  /-- The disk. -/
  disk : Disk
  /-- The events so far, in order. -/
  log : List Event
  /-- The calls of the tool so far, in order. -/
  launches : List Launch
  /-- The record of the latest run. -/
  latest : Option Run

/-- A disk on which nothing has happened yet. -/
def World.ofDisk (disk : Disk) : World := ⟨disk, [], [], none⟩

/-- Steps on a world that may end in an error. -/
abbrev Action := ExceptT Error (StateM World)

namespace Action

/-- A result, or the end in an error. -/
def ofExcept {α : Type} : Except Error α → Action α
  | .ok a => return a
  | .error e => throw e

/-- Reports events. -/
def report (events : List Event) : Action Unit :=
  modify fun world => { world with log := world.log ++ events }

/-- The disk as it is. -/
def disk : Action Disk := do return (← get).disk

/-- Does disk operations and gives their result or failure. -/
def onDisk {α : Type} (operations : DiskAction α) : Action (Except DiskFault α) := do
  let (result, disk) := operations.run (← get).disk
  modify fun world => { world with disk := disk }
  return result

/-- Does disk operations; a refusal by the system ends in an error that names the step. -/
def onDiskOr {α : Type} (refused : SystemError → Error) (operations : DiskAction α) : Action α := do
  match ← onDisk operations with
  | .ok a => return a
  | .error .nullCharacter => throw .nullCharacter
  | .error (.system e) => throw (refused e)

end Action
end StubGraft
