import StubGraft.Command.Footprint

/-!
# The program

The first word of the command line names the command.  The entries that the command may look
at are brought from the real disk, the command is carried out, and what it has changed is
brought back.  The program starts no other programs, so a run that needs the tool ends with
the error of a tool that cannot be started.
-/

namespace StubGraft.Program

/-- The path of a location on the real disk. -/
def realPath (l : Location) : String := (Path.mk .root l).toText.toStr

/-- What stands at a location of the real disk; what cannot be read counts as missing. -/
def fetchEntry (l : Location) : IO (Option Entry) := do
  try
    if ← (← IO.FS.realPath (realPath l)).isDir then return some .directory
    let bytes ← IO.FS.readBinFile (realPath l)
    return some (.file Disk.defaultMode bytes.toList)
  catch _ => return none

/-- Brings a path, and all directories above it, from the real disk. -/
def fetch (disk : Disk) (path : Path) : IO Disk := do
  let l := (path.resolve disk.workdir).parts
  let mut disk := disk
  for n in List.range l.length do
    match ← fetchEntry (l.take (n + 1)) with
    | some entry => disk := disk.put (l.take (n + 1)) entry
    | none => pure ()
  return disk

/-- Brings a changed entry to the real disk. -/
def storeEntry (before : Disk) (l : Location) (entry : Entry) : IO Unit := do
  if before.get? l = some entry then return
  match entry with
  | .directory => IO.FS.createDirAll (realPath l)
  | .file mode bytes =>
    IO.FS.writeBinFile (realPath l) (ByteArray.mk bytes.toArray)
    if (before.get? l).isNone && mode == Disk.privateMode then
      IO.setAccessRights (realPath l) { user := { read := true, write := true } }

/-- Brings all changes to the real disk. -/
def store (before after : Disk) : IO Unit := do
  for (l, entry) in after.entries do
    storeEntry before l entry
  for (l, _) in before.entries do
    if (after.get? l).isNone then IO.FS.removeFile (realPath l)

/-- What the tool does here. -/
def tool : Tool := .broken (.failure (Text.lit "other programs cannot be started"))

/-- Where settings are used here. -/
def environment : Environment := .plain

/-- The command of a name. -/
def command? (name : String) : Option (CommandSpec × (List Text → StateM World Outcome)) :=
  if name = "regenerate-visitor" then
    some (Command.regenerateSpec, Command.regenerate environment tool)
  else if name = "merge-visitor" then some (Command.mergeSpec, Command.merge environment)
  else none

/-- Carries out a command on the real disk. -/
def carryOut (spec : CommandSpec) (command : List Text → StateM World Outcome) (words : List Text) :
    IO Outcome := do
  let workdir := Path.partsOf (← IO.currentDir).toString.toList
  let mut disk : Disk := ⟨workdir, []⟩
  for path in ⟨.here, []⟩ :: Command.namedPaths spec words do
    disk ← fetch disk path
  for path in Command.derivedPaths environment disk words do
    disk ← fetch disk path
  let (outcome, world) := (command words).run (World.ofDisk disk)
  store disk world.disk
  return outcome

end StubGraft.Program

/-- Runs the command that the first word names. -/
def main (args : List String) : IO UInt32 := do
  match args with
  | [] =>
    IO.eprintln "expected a command: regenerate-visitor or merge-visitor"
    return 2
  | name :: words =>
    match StubGraft.Program.command? name with
    | none =>
      IO.eprintln ("no such command: " ++ name)
      return 2
    | some (spec, command) =>
      let outcome ← StubGraft.Program.carryOut spec command (words.map String.toList)
      IO.print outcome.stdout.toStr
      IO.eprint outcome.stderr.toStr
      match outcome.escaped with
      | some e => IO.eprintln e.message
      | none => pure ()
      return UInt32.ofNat outcome.code
