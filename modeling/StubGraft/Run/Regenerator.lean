import StubGraft.Run.Naming
import StubGraft.Run.Writer
import StubGraft.Visitor.Scan

/-!
# Regenerating visitors

A run copies the edited visitor, calls the tool, and merges the copy into what the tool has
written.  Merging also works on its own, on any two files.  This is the class `VisitorRegenerator`,
with the call of the tool from `AntlrGenerator`.

Main notions:

* `Regenerator`: settings that have been checked;
* `Regenerator.mergeFiles`: merges two files (`merge_files`);
* `Regenerator.generate`: calls the tool (`generate`);
* `Regenerator.run`: a whole run (`run`).  A run ends in an error at the first step that fails.
-/

namespace StubGraft

/-- Settings that have been checked, with their profile. -/
structure Regenerator where
  /-- The settings. -/
  settings : Settings
  /-- Their profile. -/
  profile : Profile

/-- A file to be read, with the name by which messages call it. -/
structure Source where
  /-- The name in messages. -/
  label : Text
  /-- The path. -/
  path : Path
  deriving DecidableEq, Repr

/-- A file called by the text of its path as it was given. -/
def Source.ofText (t : Text) : Source := ⟨t, Path.ofText t⟩

/-- A file called by its path. -/
def Source.ofPath (p : Path) : Source := ⟨p.toText, p⟩

/-- Reads and scans a visitor file. -/
def Profile.readModel (profile : Profile) (source : Source) : Action Model := do
  match (← Action.disk).readBytes source.path.toText with
  | .error .nullCharacter => throw .nullCharacter
  | .error (.system e) => throw (.visitorUnreadable source.label e)
  | .ok bytes =>
    match Text.decodeUtf8 bytes with
    | .error e => throw (.visitorUndecodable source.label e)
    | .ok t =>
      let (model, events) := scan profile.convention t.uniformLineEnds
      Action.report events
      return model

namespace Regenerator

/-- Checks settings: they have a profile, and their output settings are still there. -/
def ofSettings (settings : Settings) : Except Error Regenerator := do
  let profile ← settings.profile
  let _ ← settings.readOutput
  return ⟨settings, profile⟩

/-- How merged files are written. -/
def writer (regenerator : Regenerator) : Writer where
  check content := checkBalanced content.chars
  atomic := regenerator.settings.output.atomicWrite.isTruthy

/-- Merges the stub bodies of an edited visitor into a new one, and writes the result to the new one
or to another file.  Visitors with the same bodies are not merged; then there is no summary, and
another file gets the new text as it is. -/
def mergeFiles (regenerator : Regenerator) (old new : Source) (output : Option Path) :
    Action (Option Summary) := do
  let output := output.getD new.path
  let oldModel ← regenerator.profile.readModel old
  let newModel ← regenerator.profile.readModel new
  if equivalent oldModel newModel then
    Action.report [.noDifference]
    if output ≠ new.path then
      regenerator.writer.write output (Text.joinLines newModel.lines).points false
    return none
  else
    Action.report [.merging]
    let summary := summarize oldModel newModel
    let (merged, events) := merge oldModel newModel
    Action.report events
    let content ← Action.ofExcept
      ((render newModel merged regenerator.profile.headerLines).mapError Error.ofRender)
    regenerator.writer.write output content.points
      regenerator.settings.output.validateBeforeWrite.isTruthy
    Action.report [.written output.toText summary.preserved.length summary.adopted.length
      summary.dropped.length]
    return some summary

/-- Copies the edited visitor to its backup. -/
def backUp (visitor backup : Path) : Action Unit := do
  match (← Action.disk).copyFile visitor backup with
  | .ok disk => modify fun world => { world with disk := disk }
  | .error (.sameFile a b) => throw (.sameBackup a b)
  | .error (.disk .nullCharacter) => throw .nullCharacter
  | .error (.disk (.system e)) => throw (.backupRefused visitor backup e)
  Action.report [.copied visitor backup]

/-- Calls the tool on a grammar, in the directory of the grammar. -/
def generate (settings : Settings) (tool : Tool) (grammar : Path) : Action Unit := do
  let words ← Action.ofExcept (settings.toolWords grammar)
  Action.report [.running words]
  Action.ofExcept (Settings.checkWords words)
  modify fun world =>
    { world with
      launches := world.launches ++ [⟨words, grammar.parent⟩]
      disk := tool.edited grammar.parent.parts world.disk }
  Action.ofExcept tool.ending
  Action.report [.regenerated grammar]

/-- Changes the record of the latest run. -/
def updateRun (change : Run → Run) : Action Unit :=
  modify fun world => { world with latest := world.latest.map change }

/-- Enters the next stage of the latest run. -/
def enter (stage : Stage) : Action Unit := do
  match (← get).latest with
  | none => return
  | some run =>
    let (next, event) ← Action.ofExcept (run.enter stage)
    Action.report [event]
    modify fun world => { world with latest := some next }

/-- Whether something stands at a path. -/
def isThere (path : Path) : Action Bool := do
  Action.ofExcept (((← Action.disk).exists? path.toText).mapError Error.system)

/-- The steps of a run after its record has been made. -/
def steps (regenerator : Regenerator) (tool : Tool) (grammar visitor backup : Path) :
    Action Unit := do
  if ← isThere visitor then
    backUp visitor backup
    enter .backedUp
  else
    Action.report [.noVisitor visitor]
  generate regenerator.settings tool grammar
  enter .regenerated
  if ← isThere backup then
    updateRun fun run => { run with backup := some backup }
    let summary ← regenerator.mergeFiles (.ofPath backup) (.ofPath visitor) none
    updateRun fun run => { run with summary := summary }
    enter (if summary.isNone then .skipped else .merged)
  else
    Action.report [.noBackup backup]

/-- Regenerates the visitor of a grammar.  An error that is reported ends the record of the run as
failed; one that escapes leaves the record as it is. -/
def run (regenerator : Regenerator) (tool : Tool) (argument : Option Text) : Action Unit := do
  let settings := regenerator.settings
  let grammar ← Action.ofExcept (settings.resolveGrammar (← Action.disk) argument)
  let visitor ← Action.ofExcept (settings.visitorPath grammar)
  let backup ← Action.ofExcept (settings.backupPath visitor)
  modify fun world => { world with latest := some (Run.start grammar visitor) }
  tryCatch (regenerator.steps tool grammar visitor backup) fun e => do
    if e.category?.isSome then enter .failed
    throw e
  enter .done

end Regenerator
end StubGraft
