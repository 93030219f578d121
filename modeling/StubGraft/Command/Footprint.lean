import StubGraft.Command.Basic

/-!
# The footprint of a command

Which paths a command may look at or change, so that only they need to be brought from a real
disk.
-/

namespace StubGraft.Command

/-- The paths that stand on a command line. -/
def namedPaths (spec : CommandSpec) (words : List Text) : List Path :=
  match spec.parse words with
  | .error _ => []
  | .ok parsed => (parsed.options.map Prod.snd ++ parsed.arguments).map Path.ofText

/-- The visitor of the grammar on a command line and its backup, on a disk that holds the paths of
the command line. -/
def derivedPaths (environment : Environment) (disk : Disk) (words : List Text) :
    List Path :=
  let paths : Except CommandFault (List Path) := do
    let parsed ← (regenerateSpec.parse words).mapError .usage
    let config ← checkedOption disk parsed configOption
    let settings ← (Settings.load environment disk config none).mapError .escaped
    let grammar ← (settings.resolveGrammar disk parsed.arguments.head?).mapError .escaped
    let visitor ← (settings.visitorPath grammar).mapError .escaped
    let backup ← (settings.backupPath visitor).mapError .escaped
    return [visitor, backup]
  paths.toOption.getD []

end StubGraft.Command
