import StubGraft.Command.Options
import StubGraft.Run.Regenerator
import StubGraft.Settings.Load

/-!
# The commands

Two commands stand around the library: one regenerates the visitor of a grammar, the other
merges two visitor files.

Main notions:

* `Outcome`: the exit code of a command and what it prints;
* `Command.regenerate`, `Command.merge`: the commands.
-/

namespace StubGraft

/-- How a command ends. -/
structure Outcome where
  /-- The exit code. -/
  code : Nat
  /-- What it prints. -/
  stdout : Text
  /-- What it prints on the error stream. -/
  stderr : Text
  /-- The error that escaped, if one did. -/
  escaped : Option Error

/-- Why a command line cannot be carried out. -/
inductive CommandFault where
  /-- It is wrong. -/
  | usage (e : UsageError)
  /-- An error escapes while it is looked at. -/
  | escaped (e : Error)

namespace Command

/-! ## What the commands take -/

/-- The option for the settings file. -/
def configOption : OptionSpec := ⟨Text.lit "--config", some 'c', .existingFile, []⟩

/-- The option for the output file. -/
def outputOption : OptionSpec := ⟨Text.lit "--output", some 'o', .outputFile, []⟩

/-- The option for the place of the tool. -/
def antlrJarOption : OptionSpec :=
  ⟨Text.lit "--antlr-jar", none, .text, Text.lit "Path of the ANTLR complete jar"⟩

/-- The option for a full log. -/
def verboseOption : OptionSpec := ⟨Text.lit "--verbose", some 'v', .flag, Text.lit "Log every step"⟩

/-- The command that regenerates a visitor. -/
def regenerateSpec : CommandSpec where
  name := Text.lit "regenerate-visitor"
  synopsis := Text.lit "[GRAMMAR]"
  purpose := Text.lit "Regenerate the visitor of GRAMMAR, keeping hand-edited stub bodies."
  options := [configOption, antlrJarOption, verboseOption, helpOption]

/-- The command that merges two visitors. -/
def mergeSpec : CommandSpec where
  name := Text.lit "merge-visitor"
  synopsis := Text.lit "OLD NEW"
  purpose := Text.lit "Merge the stub bodies of OLD into NEW (or into --output)."
  options := [outputOption, configOption, verboseOption, helpOption]

/-! ## Checking files -/

/-- The absolute path of a file given on the command line, which must not be a directory and, if
`needed`, has to be there. -/
def checkFile (disk : Disk) (needed : Bool) (label file : Text) : Except CommandFault Text :=
  if file.contains '\x00' then .error (.escaped .nullCharacter)
  else
    let path := ((Path.ofText file).resolve disk.workdir).toText
    match disk.entryAt path with
    | .error _ => if needed then .error (.usage (.fileMissing label file)) else .ok path
    | .ok .directory => .error (.usage (.fileIsDirectory label file))
    | .ok (.file ..) => .ok path

/-- The value of an option after its check. -/
def checkOption (disk : Disk) (option : OptionSpec) (value : Text) : Except CommandFault Text :=
  match option.kind with
  | .flag | .text => .ok value
  | .existingFile => checkFile disk true option.label value
  | .outputFile => checkFile disk false option.label value

/-- The value of an option of a command line after its check; of several the last one. -/
def checkedOption (disk : Disk) (parsed : Parsed) (option : OptionSpec) :
    Except CommandFault (Option Text) :=
  match parsed.value? option.name with
  | none => .ok none
  | some value => (checkOption disk option value).map some

/-- Checks the options of a command line in the order in which they are first given. -/
def checkOptions (disk : Disk) (parsed : Parsed) : List OptionSpec → Except CommandFault Unit
  | [] => .ok ()
  | option :: options =>
    match checkedOption disk parsed option with
    | .error e => .error e
    | .ok _ => checkOptions disk parsed options

/-- The arguments that are more than a command takes have to be none. -/
def checkExtra (extra : List Text) : Except CommandFault Unit :=
  if extra.isEmpty then .ok () else .error (.usage (.extraArguments extra))

/-! ## Ends of a command -/

/-- The lines of a log, of all events or without the steps. -/
def logText (verbose : Bool) (log : List Event) : Text :=
  (log.filter fun event => verbose || event.level ≠ .debug).flatMap fun event =>
    Text.lit event.toLine ++ ['\n']

/-- The end of a command whose command line is not carried out. -/
def refused (spec : CommandSpec) : CommandFault → Outcome
  | .usage e => ⟨2, [], spec.usageText e, none⟩
  | .escaped e => ⟨1, [], [], some e⟩

/-- The end of a command: what it prints, or its error. -/
def ended (verbose : Bool) (log : List Event) : Except Error Text → Outcome
  | .ok stdout => ⟨0, stdout, logText verbose log, none⟩
  | .error e =>
    match e.category? with
    | some category =>
      ⟨1, [], logText verbose log ++ Text.lit (category.name ++ ": " ++ e.message ++ "\n"), none⟩
    | none => ⟨1, [], logText verbose log, some e⟩

/-- Names or lines, each on a line of its own after a heading. -/
def listed (heading : String) (items : List Text) : Text :=
  items.flatMap fun item => Text.lit heading ++ item ++ ['\n']

/-- What a command tells of a merge. -/
def summaryText : Option Summary → Text
  | none => Text.lit "No difference in stub bodies, merge skipped\n"
  | some summary =>
    Text.lit "Kept " ++ Text.ofNat summary.preserved.length ++
      Text.lit " existing stub bodies\n" ++
      listed "  added:   " summary.adopted ++ listed "  dropped: " summary.dropped ++
      listed "  import:  " (summary.carriedImports.map Text.strip)

/-! ## The commands -/

/-- Carries out a command line that has been checked. -/
def carryOut (spec : CommandSpec) (words : List Text)
    (act : Disk → Parsed → Except CommandFault (Action Text)) : StateM World Outcome := do
  let disk := (← get).disk
  match spec.parse words with
  | .error e => return refused spec (.usage e)
  | .ok parsed =>
    if parsed.has helpOption.name then return ⟨0, spec.help, [], none⟩
    match checkOptions disk parsed (parsed.options.map Prod.fst) with
    | .error e => return refused spec e
    | .ok () =>
      match act disk parsed with
      | .error e => return refused spec e
      | .ok action =>
        let result ← action.run
        return ended (parsed.has verboseOption.name) (← get).log result

/-- What the command that regenerates a visitor does. -/
def regenerateAction (environment : Environment) (tool : Tool)
    (config antlrJar grammar : Option Text) : Action Text := do
  let settings ← Action.ofExcept (Settings.load environment (← Action.disk) config antlrJar)
  let regenerator ← Action.ofExcept (Regenerator.ofSettings settings)
  regenerator.run tool grammar
  match (← get).latest with
  | none => return []
  | some run =>
    let outcome ← Action.ofExcept run.outcome
    let summary := if run.summary.isSome then summaryText run.summary else []
    return summary ++ run.visitor.toText ++ Text.lit (": " ++ outcome.name ++ "\n")

/-- Regenerates the visitor of a grammar. -/
def regenerate (environment : Environment) (tool : Tool) (words : List Text) :
    StateM World Outcome :=
  carryOut regenerateSpec words fun disk parsed => do
    let grammar := parsed.arguments.head?
    if (grammar.getD []).contains '\x00' then throw (.escaped .nullCharacter)
    checkExtra (parsed.arguments.drop 1)
    let config ← checkedOption disk parsed configOption
    return regenerateAction environment tool config (parsed.value? antlrJarOption.name) grammar

/-- What the command that merges two visitors does. -/
def mergeAction (environment : Environment) (config output : Option Text)
    (old new : Text) : Action Text := do
  let settings ← Action.ofExcept (Settings.load environment (← Action.disk) config none)
  let regenerator ← Action.ofExcept (Regenerator.ofSettings settings)
  return summaryText (← regenerator.mergeFiles (.ofText old) (.ofText new) (output.map Path.ofText))

/-- The file that an argument names, by the place of the argument. -/
def checkedArgument (disk : Disk) (parsed : Parsed) (index : Nat) (name : Text) :
    Except CommandFault Text :=
  match parsed.arguments[index]? with
  | none => .error (.usage (.missingArgument name))
  | some file => checkFile disk true name.quoted file

/-- Merges the stub bodies of a visitor into another one. -/
def merge (environment : Environment) (words : List Text) : StateM World Outcome :=
  carryOut mergeSpec words fun disk parsed => do
    let old ← checkedArgument disk parsed 0 (Text.lit "OLD")
    let new ← checkedArgument disk parsed 1 (Text.lit "NEW")
    checkExtra (parsed.arguments.drop 2)
    let config ← checkedOption disk parsed configOption
    let output ← checkedOption disk parsed outputOption
    return mergeAction environment config output old new

end Command
end StubGraft
