import StubGraft.Run.World
import StubGraft.Text.Points
import StubGraft.Visitor.Braces

/-!
# Writing visitor files

A content is checked, the directories above its file are made, and it is written: directly, or
to a temporary file that then takes the place of the old one, so that no reader ever sees
half of it.  This is the class `AtomicWriter` with its `write`, and `validate_balanced`.

A content is a list of code points.  One with surrogates is opened a file for, and only then found
to have no bytes; what has been opened stays.

Main notions:

* `checkBalanced`: the usual check (`validate_balanced`);
* `Writer`, `Writer.write`: a way to write with a check;
* `Writer.store`, `Writer.abandon`: what follows the check, by whether the content has bytes.
-/

namespace StubGraft

/-- A text to be written has to close as many braces as it opens. -/
def checkBalanced (content : Text) : Except Error Unit :=
  if Braces.balanced content then .ok ()
  else .error (.unbalanced (Braces.opens content) (Braces.closes content))

/-- A way to write. -/
structure Writer where
  /-- The check of a content before it is written. -/
  check : Points → Except Error Unit
  /-- Whether to write through a temporary file. -/
  atomic : Bool

namespace Writer

/-- Fills a temporary file and moves it to its place, with the mode of the file that is there. -/
def replace (temporary target : Text) (bytes : List UInt8) : DiskAction Unit := do
  DiskAction.change fun disk => disk.writeFile temporary bytes
  if ← DiskAction.ask fun disk => disk.exists? target then
    DiskAction.change fun disk => disk.copyMode target temporary
  DiskAction.change fun disk => disk.rename temporary target

/-- Writes through a temporary file, which is removed if its move is refused. -/
def writeAtomic (path : Path) (bytes : List UInt8) : Action Unit := do
  let temporary ← Action.onDiskOr (.temporaryRefused path) (DiskAction.createTemporary path)
  match ← Action.onDisk (replace temporary path.toText bytes) with
  | .ok () => return
  | .error .nullCharacter => throw .nullCharacter
  | .error (.system e) =>
    let _ ← Action.onDisk (DiskAction.change fun disk => disk.unlink temporary)
    throw (.writeRefused path e)

/-- Writes directly. -/
def writeDirect (path : Path) (bytes : List UInt8) : Action Unit :=
  Action.onDiskOr (.writeRefused path)
    (DiskAction.change fun disk => disk.writeFile path.toText bytes)

/-- Makes the directories above a file and writes it. -/
def store (writer : Writer) (path : Path) (bytes : List UInt8) : Action Unit := do
  Action.onDiskOr (.directoryRefused path.parent) (DiskAction.makeDirectories path.parent)
  if writer.atomic then writeAtomic path bytes else writeDirect path bytes

/-- Opens the file that is written first, a temporary one or the file itself, which is emptied. -/
def openFirst (writer : Writer) (path : Path) : Action Unit :=
  if writer.atomic then do
    let _ ← Action.onDiskOr (.temporaryRefused path) (DiskAction.createTemporary path)
  else writeDirect path []

/-- Makes the directories above a file and opens it for a content that has no bytes. -/
def abandon (writer : Writer) (path : Path) (found : Surrogates) : Action Unit := do
  Action.onDiskOr (.directoryRefused path.parent) (DiskAction.makeDirectories path.parent)
  writer.openFirst path
  throw (.contentUnencodable found)

/-- Writes a content to a file, with a check if asked for. -/
def write (writer : Writer) (path : Path) (content : Points) (validate : Bool) : Action Unit := do
  if validate then Action.ofExcept (writer.check content)
  match content.encodeUtf8 with
  | .ok bytes => writer.store path bytes
  | .error found => writer.abandon path found

end Writer
end StubGraft
