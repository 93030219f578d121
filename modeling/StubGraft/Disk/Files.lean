import StubGraft.Disk.Basic
import StubGraft.Disk.Error

/-!
# Files

Operations on the files of a disk, by the texts of their paths.  A path is walked name by
name: each name but the last has to lead to a directory.

Main notions:

* `locate`: the location that a path leads to;
* `exists?`, `isFile?`, `isDirectory?`, `readBytes`: what stands there;
* `writeFile`, `makeDirectory`, `rename`, `copyMode`, `unlink`: changes, each of them done or
  refused as a whole.
-/

namespace StubGraft.Disk

/-! ## Walking paths -/

/-- The greatest number of bytes of a name. -/
def maxNameBytes : Nat := 255

/-- The number of bytes that is too many for a path. -/
def maxPathBytes : Nat := 4096

/-- The location one name on from a location, which has to be a directory. -/
def step (disk : Disk) (l : Location) (name : Text) : Except Errno Location :=
  match disk.get? l with
  | none => .error .noEntry
  | some (.file ..) => .error .notDirectory
  | some .directory =>
    if name = ['.'] then .ok l
    else if name = ['.', '.'] then .ok l.dropLast
    else if maxNameBytes < Text.byteLength name then .error .nameTooLong
    else .ok (l ++ [name])

/-- The names between the slashes of a path; a slash at the end stands for the directory itself. -/
def namesOf (path : Text) : List Text :=
  let names := (Text.pieces '/' path).filter (· ≠ [])
  if names ≠ [] ∧ path.getLast? = some '/' then names ++ [['.']] else names

/-- Walks names from a location on. -/
def walk (disk : Disk) (l : Location) : List Text → Except Errno Location
  | [] => .ok l
  | name :: names =>
    match disk.step l name with
    | .error e => .error e
    | .ok next => disk.walk next names

/-- The location that a path leads to; nothing need stand there. -/
def find (disk : Disk) (path : Text) : Except Errno Location :=
  if path.isEmpty then .error .noEntry
  else if maxPathBytes ≤ Text.byteLength path then .error .nameTooLong
  else disk.walk (if path.head? = some '/' then [] else disk.workdir) (namesOf path)

/-- The refusal of an operation on a path. -/
def refuse {α : Type} (errno : Errno) (path : Text) : Except DiskFault α :=
  .error (.system ⟨errno, path, none⟩)

/-- The location that a path leads to, or why it leads nowhere. -/
def locate (disk : Disk) (path : Text) : Except DiskFault Location :=
  if path.contains '\x00' then .error .nullCharacter
  else
    match disk.find path with
    | .error errno => refuse errno path
    | .ok l => .ok l

/-! ## Looking -/

/-- What stands at the end of a path. -/
def entryAt (disk : Disk) (path : Text) : Except DiskFault Entry := do
  let l ← disk.locate path
  match disk.get? l with
  | none => refuse .noEntry path
  | some entry => return entry

/-- Whether what stands at the end of a path has a property.  A path that leads nowhere has none; a
refusal for another reason is passed on. -/
def entrySatisfies? (disk : Disk) (path : Text) (property : Entry → Bool) :
    Except SystemError Bool :=
  match disk.entryAt path with
  | .ok entry => .ok (property entry)
  | .error .nullCharacter => .ok false
  | .error (.system e) =>
    match e.errno with
    | .noEntry | .notDirectory => .ok false
    | _ => .error e

/-- Whether something stands at the end of a path. -/
def exists? (disk : Disk) (path : Text) : Except SystemError Bool :=
  disk.entrySatisfies? path fun _ => true

/-- Whether a file stands at the end of a path. -/
def isFile? (disk : Disk) (path : Text) : Except SystemError Bool :=
  disk.entrySatisfies? path fun entry => entry != .directory

/-- Whether a directory stands at the end of a path. -/
def isDirectory? (disk : Disk) (path : Text) : Except SystemError Bool :=
  disk.entrySatisfies? path fun entry => entry == .directory

/-- The bytes of a file. -/
def readBytes (disk : Disk) (path : Text) : Except DiskFault (List UInt8) := do
  match ← disk.entryAt path with
  | .directory => refuse .isDirectory path
  | .file _ bytes => return bytes

/-! ## Changing -/

/-- The disk with a file's bytes replaced, or with a new file. -/
def writeFile (disk : Disk) (path : Text) (bytes : List UInt8) : Except DiskFault Disk := do
  let l ← disk.locate path
  match disk.get? l with
  | some .directory => refuse .isDirectory path
  | _ => return disk.putBytes l bytes

/-- The disk with a new directory. -/
def makeDirectory (disk : Disk) (path : Text) : Except DiskFault Disk := do
  let l ← disk.locate path
  match disk.get? l with
  | some _ => refuse .alreadyExists path
  | none => return disk.put l .directory

/-- The disk with a new, empty and private file. -/
def createFile (disk : Disk) (path : Text) : Except DiskFault Disk := do
  let l ← disk.locate path
  match disk.get? l with
  | some _ => refuse .alreadyExists path
  | none => return disk.put l (.file privateMode [])

/-- The mode of an entry. -/
def modeOf : Entry → Nat
  | .directory => 0o755
  | .file mode _ => mode

/-- The disk with the mode of one file given to another. -/
def copyMode (disk : Disk) (source target : Text) : Except DiskFault Disk := do
  let entry ← disk.entryAt source
  let l ← disk.locate target
  match ← disk.entryAt target with
  | .directory => return disk
  | .file _ bytes => return disk.put l (.file (modeOf entry) bytes)

/-- Whether a path ends in a name of its own, and not in dots or at the top. -/
def endsInName (path : Text) : Bool :=
  match (namesOf path).getLast? with
  | some name => name != ['.'] && name != ['.', '.']
  | none => false

/-- The disk with a file moved to another path, in place of a file that is there. -/
def rename (disk : Disk) (source target : Text) : Except DiskFault Disk := do
  let refused (errno : Errno) : Except DiskFault Disk :=
    .error (.system ⟨errno, source, some target⟩)
  if source.contains '\x00' ∨ target.contains '\x00' then throw .nullCharacter
  match disk.find source, disk.find target with
  | .error errno, _ => refused errno
  | _, .error errno => refused errno
  | .ok l, .ok m =>
    if !endsInName target then refused .busy
    else
      match disk.get? l, disk.get? m with
      | none, _ => refused .noEntry
      | _, some .directory => refused .isDirectory
      | some entry, _ => return (disk.erase l).put m entry

/-- The disk without a file; a file that is not there may be missing. -/
def unlink (disk : Disk) (path : Text) : Except DiskFault Disk := do
  let l ← disk.locate path
  match disk.get? l with
  | some .directory => refuse .isDirectory path
  | _ => return disk.erase l

end StubGraft.Disk
