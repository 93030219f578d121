import StubGraft.Path.Basic
import StubGraft.Run.Stage

/-!
# Events

What happens during a scan, a merge or a run is reported as a list of events, in order.
Each event has a level and a wording.
-/

namespace StubGraft

/-- How much an event matters. -/
inductive Level where
  /-- A step. -/
  | debug
  /-- A result. -/
  | info
  /-- Something that may lose work. -/
  | warning
  deriving DecidableEq, Repr

/-- The name of a level. -/
def Level.name : Level → String
  | .debug => "DEBUG"
  | .info => "INFO"
  | .warning => "WARNING"

/-- Something that happened. -/
inductive Event where
  /-- The braces of a declaration, at a line counted from one, never balance. -/
  | unbalancedStub (line : Nat)
  /-- A later declaration, at a line counted from one, repeats a name. -/
  | duplicateStub (name : Text) (line : Nat)
  /-- A declaration, at a line counted from one, closes on its own line. -/
  | oneLineStub (name : Text) (line : Nat)
  /-- A visitor has been scanned. -/
  | scanned (stubs imports lines : Nat)
  /-- An edited stub is no longer generated. -/
  | droppedStub (name : Text)
  /-- The edited visitor has been copied to its backup. -/
  | copied (visitor backup : Path)
  /-- There is no visitor to copy. -/
  | noVisitor (visitor : Path)
  /-- The tool is called with these words. -/
  | running (words : List Text)
  /-- The tool has written a visitor. -/
  | regenerated (grammar : Path)
  /-- There is no backup to merge. -/
  | noBackup (backup : Path)
  /-- The two visitors have the same stub bodies. -/
  | noDifference
  /-- The two visitors are merged. -/
  | merging
  /-- The merged visitor has been written. -/
  | written (output : Text) (kept added dropped : Nat)
  /-- The run of a visitor goes from one stage to another. -/
  | entered (visitor : Text) (before after : Stage)
  deriving DecidableEq, Repr

namespace Event

/-- The level of an event. -/
def level : Event → Level
  | .unbalancedStub .. | .duplicateStub .. | .oneLineStub .. | .droppedStub .. => .warning
  | .scanned .. | .running .. | .entered .. => .debug
  | .copied .. | .noVisitor .. | .regenerated .. | .noBackup .. | .noDifference | .merging
  | .written .. => .info

/-- The wording of an event. -/
def message : Event → String
  | .unbalancedStub line =>
    "Unbalanced braces in stub declared at line " ++ toString line ++ ", not treated as a stub"
  | .duplicateStub name line =>
    "Duplicate stub " ++ name.toStr ++ " at line " ++ toString line ++ " ignored"
  | .oneLineStub name line =>
    "Stub " ++ name.toStr ++ " declared on one line at line " ++ toString line ++
      ", its body cannot be preserved"
  | .scanned stubs imports lines =>
    "Extracted " ++ toString stubs ++ " stubs and " ++ toString imports ++ " imports from " ++
      toString lines ++ " lines"
  | .droppedStub name => "Stub " ++ name.toStr ++ " no longer generated, its body is dropped"
  | .copied visitor backup => "Copied " ++ visitor.toText.toStr ++ " to " ++ backup.toText.toStr
  | .noVisitor visitor => "No existing visitor at " ++ visitor.toText.toStr ++ ", skipping backup"
  | .running words => "Running " ++ (Text.join [' '] words).toStr
  | .regenerated grammar => "Regenerated visitor from " ++ grammar.toText.toStr ++ " via antlr"
  | .noBackup backup => "No backup at " ++ backup.toText.toStr ++ ", skipping merge"
  | .noDifference => "No difference between old visitor and new visitor. Skipping merge..."
  | .merging => "Merging old visitor and new visitor"
  | .written output kept added dropped =>
    "Generated new visitor file: " ++ output.toStr ++ " (" ++ toString kept ++ " preserved, " ++
      toString added ++ " added, " ++ toString dropped ++ " dropped)"
  | .entered visitor before after => visitor.toStr ++ ": " ++ before.name ++ " -> " ++ after.name

/-- The event as one line of a log. -/
def toLine (event : Event) : String := event.level.name ++ ": " ++ event.message

end Event
end StubGraft
