import StubGraft.Disk.Files
import StubGraft.Path.Basic

/-!
# Sequences of disk operations

Operations in sequence change a disk step by step and stop at the first that fails; what
was changed before it stays changed.

Main notions:

* `DiskAction`: such a sequence;
* `makeDirectories`: a directory and all directories above it that are missing;
* `createTemporary`: a new file beside a given path;
* `copyFile`: the bytes of one file in another.
-/

namespace StubGraft

/-- A sequence of operations on a disk. -/
abbrev DiskAction := ExceptT DiskFault (StateM Disk)

namespace DiskAction

/-- Looks at the disk. -/
def look {α : Type} (query : Disk → Except DiskFault α) : DiskAction α := do
  match query (← get) with
  | .ok a => return a
  | .error e => throw e

/-- Looks at the disk, where only the system can refuse. -/
def ask {α : Type} (query : Disk → Except SystemError α) : DiskAction α := do
  match query (← get) with
  | .ok a => return a
  | .error e => throw (.system e)

/-- Changes the disk, or leaves it and fails. -/
def change (update : Disk → Except DiskFault Disk) : DiskAction Unit := do
  match update (← get) with
  | .ok disk => set disk
  | .error e => throw e

/-! ## Directories -/

/-- Makes a directory; `none` if that worked, else why it did not. -/
def tryMakeDirectory (path : Text) : DiskAction (Option DiskFault) := do
  match (← get).makeDirectory path with
  | .ok disk =>
    set disk
    return none
  | .error e => return some e

/-- Passes a failure on, unless the directory is there. -/
def unlessDirectory (path : Text) (e : SystemError) : DiskAction Unit := do
  if !(← ask fun disk => disk.isDirectory? path) then throw (.system e)

/-- Makes a directory whose parents are there. -/
def makeLastDirectory (path : Text) : DiskAction Unit := do
  match ← tryMakeDirectory path with
  | none => return
  | some .nullCharacter => throw .nullCharacter
  | some (.system e) =>
    if e.errno = .noEntry then throw (.system e) else unlessDirectory path e

/-- Makes the directory with the given parts, in reverse, and those above it that are missing. -/
def makeDirectoriesFrom (anchor : Anchor) : List Text → DiskAction Unit
  | [] => makeLastDirectory (Path.mk anchor []).toText
  | part :: above => do
    let path := (Path.mk anchor (part :: above).reverse).toText
    match ← tryMakeDirectory path with
    | none => return
    | some .nullCharacter => throw .nullCharacter
    | some (.system e) =>
      if e.errno = .noEntry then
        makeDirectoriesFrom anchor above
        makeLastDirectory path
      else unlessDirectory path e

/-- Makes a directory and those above it that are missing; one that is there may stay. -/
def makeDirectories (p : Path) : DiskAction Unit := makeDirectoriesFrom p.anchor p.parts.reverse

/-! ## Temporary files -/

/-- The characters of the changing part of a temporary name. -/
def tagAlphabet : List Char := Text.lit "abcdefghijklmnopqrstuvwxyz0123456789_"

/-- The changing part of a temporary name: eight characters that write a number. -/
def tag (n : Nat) : Text :=
  (List.range 8).map fun place =>
    tagAlphabet.getD (n / Nat.pow tagAlphabet.length place % tagAlphabet.length) 'a'

/-- A temporary name for a name. -/
def temporaryName (name tag : Text) : Text := '.' :: name ++ '.' :: tag ++ Text.lit ".tmp"

/-- The absolute text of a path without double dots, where two slashes at the start stay. -/
def absoluteText (workdir : Location) (p : Path) : Text :=
  let anchor := if p.anchor = .doubleRoot then Anchor.doubleRoot else .root
  (Path.mk anchor (p.resolve workdir).parts).toText

/-- The text of a path with one more name. -/
def appendName (path name : Text) : Text :=
  if path.getLast? = some '/' then path ++ name else path ++ '/' :: name

/-- A temporary path beside a path that nothing stands at: the first of the numbered ones, of which
one more than there are entries suffices. -/
def temporaryPath (disk : Disk) (p : Path) : Text :=
  let folder := (p.parent.resolve disk.workdir).parts
  let isFree (n : Nat) : Bool := (disk.get? (folder ++ [temporaryName p.name (tag n)])).isNone
  let n := ((List.range (disk.entries.length + 1)).find? isFree).getD 0
  appendName (absoluteText disk.workdir p.parent) (temporaryName p.name (tag n))

/-- Creates a temporary file beside a path. -/
def createTemporary (p : Path) : DiskAction Text := do
  let path := temporaryPath (← get) p
  change fun disk => disk.createFile path
  return path

end DiskAction

/-! ## Copies -/

/-- Why a file cannot be copied. -/
inductive CopyFault where
  /-- Both paths lead to the same entry. -/
  | sameFile (source target : Path)
  /-- The disk refuses. -/
  | disk (fault : DiskFault)
  deriving DecidableEq, Repr

namespace Disk

/-- Whether two paths lead to the same entry; paths that lead nowhere do not. -/
def sameEntry (disk : Disk) (a b : Text) : Except DiskFault Bool :=
  match disk.locate a, disk.locate b with
  | .error .nullCharacter, _ => .error .nullCharacter
  | _, .error .nullCharacter => .error .nullCharacter
  | .ok l, .ok m => .ok (l = m && (disk.get? l).isSome)
  | _, _ => .ok false

/-- The disk with the bytes of one file in another; a new file gets the default mode. -/
def copyFile (disk : Disk) (source target : Path) : Except CopyFault Disk :=
  match disk.sameEntry source.toText target.toText with
  | .error e => .error (.disk e)
  | .ok true => .error (.sameFile source target)
  | .ok false =>
    match disk.readBytes source.toText with
    | .error e => .error (.disk e)
    | .ok bytes =>
      match disk.writeFile target.toText bytes with
      | .error e => .error (.disk e)
      | .ok disk => .ok disk

end Disk
end StubGraft
