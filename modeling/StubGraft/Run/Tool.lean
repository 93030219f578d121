import StubGraft.Disk.Basic
import StubGraft.Error
import StubGraft.Text.Blank

/-!
# The tool

The tool that generates visitors is known by what it does to a disk and tells its caller: it
cannot be started, or it writes and deletes files, prints, and ends with a code.

Main notions:

* `Edit`, `Edit.apply`: a file that the tool writes or deletes;
* `Tool`: what the tool does when it is called;
* `Tool.edited`, `Tool.ending`: what becomes of a disk, and how the call ends for the caller;
* `Launch`: a call of the tool.
-/

namespace StubGraft

/-- A change that the tool makes, at a path from its directory on. -/
inductive Edit where
  /-- Writes a file, with a mode or with the one it has. -/
  | write (path : Text) (bytes : List UInt8) (mode : Option Nat)
  /-- Deletes a file. -/
  | delete (path : Text)
  deriving DecidableEq, Repr

/-- Writes a file and the directories above it. -/
def Disk.putFile (disk : Disk) (l : Location) (bytes : List UInt8) (mode : Option Nat) : Disk :=
  let disk := disk.putAncestors l
  match mode with
  | some mode => disk.put l (.file mode bytes)
  | none => disk.putBytes l bytes

/-- The location of a path from a directory on. -/
def Location.below (folder : Location) (path : Text) : Location :=
  Path.descend folder (Path.partsOf path)

/-- The disk after a change by a tool in a directory. -/
def Edit.apply (folder : Location) (disk : Disk) : Edit → Disk
  | .write path bytes mode => disk.putFile (Location.below folder path) bytes mode
  | .delete path => disk.erase (Location.below folder path)

/-- What the tool does when it is called. -/
inductive Tool where
  /-- It cannot be started. -/
  | broken (fault : LaunchFault)
  /-- It changes files, ends with a code, and has printed bytes as its output and as its errors. -/
  | working (edits : List Edit) (code : Int) (stdout stderr : List UInt8)
  deriving DecidableEq, Repr

namespace Tool

/-- The disk after a call of the tool in a folder. -/
def edited (tool : Tool) (folder : Location) (disk : Disk) : Disk :=
  match tool with
  | .broken _ => disk
  | .working edits _ _ _ => edits.foldl (Edit.apply folder) disk

/-- What has been printed, as the caller reads it. -/
def readPrinted (bytes : List UInt8) : Except Error Text :=
  match Text.decodeUtf8 bytes with
  | .error e => .error (.outputUndecodable e)
  | .ok t => .ok t.uniformLineEnds

/-- How a call of the tool ends for the caller, who reads all that has been printed before looking
at the code. -/
def ending : Tool → Except Error Unit
  | .broken fault => .error (.launch fault)
  | .working _ code stdout stderr => do
    let _ ← readPrinted stdout
    let stderr ← readPrinted stderr
    if code ≠ 0 then throw (.toolFailed code stderr.strip)

end Tool

/-- A call of the tool. -/
structure Launch where
  /-- The words of the call. -/
  words : List Text
  /-- The directory it runs in. -/
  folder : Path
  deriving DecidableEq, Repr

end StubGraft
