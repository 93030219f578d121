import StubGraft.Text.Quoted

/-!
# Command lines

A command takes options and arguments in any order.  An option has a long name and perhaps a
letter; letters can be joined, a value can follow in the same word or in the next one, and two
dashes end the options.

Main notions:

* `OptionSpec`, `CommandSpec`: what a command takes;
* `CommandSpec.parse`: the options and arguments of a command line;
* `UsageError`: what is wrong with a command line, with its wording;
* `CommandSpec.help`: the help text.
-/

namespace StubGraft

/-- What kind of value an option takes. -/
inductive OptionKind where
  /-- None. -/
  | flag
  /-- Any text. -/
  | text
  /-- A file that is there. -/
  | existingFile
  /-- A file that need not be there. -/
  | outputFile
  deriving DecidableEq, Repr

/-- An option of a command. -/
structure OptionSpec where
  /-- The long name, with its dashes. -/
  name : Text
  /-- The letter. -/
  letter : Option Char
  /-- The kind of its value. -/
  kind : OptionKind
  /-- What it is for; empty if nothing is said. -/
  purpose : Text

/-- A command. -/
structure CommandSpec where
  /-- Its name. -/
  name : Text
  /-- How its arguments are written in its synopsis. -/
  synopsis : Text
  /-- What it does. -/
  purpose : Text
  /-- Its options, in the order of its help text. -/
  options : List OptionSpec

namespace OptionSpec

/-- The placeholder for the value of an option. -/
def placeholder (option : OptionSpec) : Text :=
  match option.kind with
  | .flag => []
  | .text => Text.lit " TEXT"
  | .existingFile | .outputFile => Text.lit " FILE"

/-- The option as the help text shows it. -/
def title (option : OptionSpec) : Text :=
  let letter :=
    match option.letter with
    | some c => ['-', c, ',', ' ']
    | none => []
  letter ++ option.name ++ option.placeholder

/-- The option as error messages call it. -/
def label (option : OptionSpec) : Text :=
  match option.letter with
  | some c => option.name.quoted ++ Text.lit " / " ++ Text.quoted ['-', c]
  | none => option.name.quoted

end OptionSpec

/-- The option that every command has. -/
def helpOption : OptionSpec :=
  ⟨Text.lit "--help", none, .flag, Text.lit "Show this message and exit."⟩

/-! ## Errors -/

/-- What is wrong with a command line. -/
inductive UsageError where
  /-- An option is unknown. -/
  | noSuchOption (name : Text)
  /-- The value of an option is missing. -/
  | missingValue (name : Text)
  /-- An option has a value that takes none. -/
  | unwantedValue (name : Text)
  /-- An argument is missing. -/
  | missingArgument (name : Text)
  /-- There are too many arguments. -/
  | extraArguments (arguments : List Text)
  /-- A file is not there. -/
  | fileMissing (label file : Text)
  /-- A directory stands in place of a file. -/
  | fileIsDirectory (label file : Text)
  deriving DecidableEq, Repr

namespace UsageError

/-- The wording of an error. -/
def message : UsageError → Text
  | .noSuchOption name => Text.lit "No such option " ++ name.quoted ++ ['.']
  | .missingValue name => Text.lit "Option " ++ name.quoted ++ Text.lit " requires an argument."
  | .unwantedValue name => Text.lit "Option " ++ name.quoted ++ Text.lit " does not take a value."
  | .missingArgument name => Text.lit "Missing argument " ++ name.quoted ++ ['.']
  | .extraArguments arguments =>
    Text.lit (if arguments.length = 1 then "Got unexpected extra argument ("
      else "Got unexpected extra arguments (") ++ Text.join [' '] arguments ++ [')']
  | .fileMissing label file =>
    Text.lit "Invalid value for " ++ label ++ Text.lit ": File " ++ file.quoted ++
      Text.lit " does not exist."
  | .fileIsDirectory label file =>
    Text.lit "Invalid value for " ++ label ++ Text.lit ": File " ++ file.quoted ++
      Text.lit " is a directory."

/-- Whether an error is about the form of an option; such an error is told without the synopsis. -/
def isAboutForm : UsageError → Bool
  | .missingValue _ | .unwantedValue _ => true
  | _ => false

end UsageError

/-! ## Parsing -/

/-- The options and arguments of a command line. -/
structure Parsed where
  /-- The options in order, each with its value; that of a flag is empty. -/
  options : List (OptionSpec × Text)
  /-- The arguments in order. -/
  arguments : List Text

namespace Parsed

/-- The value of an option; of several the last one. -/
def value? (parsed : Parsed) (name : Text) : Option Text :=
  ((parsed.options.filter fun entry => entry.1.name = name).getLast?).map Prod.snd

/-- Whether an option is given. -/
def has (parsed : Parsed) (name : Text) : Bool := (parsed.value? name).isSome

/-- An option before the others. -/
def withOptions (parsed : Parsed) (options : List (OptionSpec × Text)) : Parsed :=
  { parsed with options := options ++ parsed.options }

/-- An argument before the others. -/
def withArgument (parsed : Parsed) (argument : Text) : Parsed :=
  { parsed with arguments := argument :: parsed.arguments }

end Parsed

/-- What a word with options gives: complete options, and perhaps one whose value is the next word,
with the name it was called by. -/
structure OptionWord where
  /-- The complete options. -/
  complete : List (OptionSpec × Text)
  /-- The option that waits for its value. -/
  waiting : Option (OptionSpec × Text)

namespace CommandSpec

/-- The option of a long name. -/
def byName? (spec : CommandSpec) (name : Text) : Option OptionSpec :=
  spec.options.find? fun option => option.name = name

/-- The option of a letter. -/
def byLetter? (spec : CommandSpec) (c : Char) : Option OptionSpec :=
  spec.options.find? fun option => option.letter = some c

/-- Reads joined letters. -/
def readLetters (spec : CommandSpec) : Text → Except UsageError OptionWord
  | [] => .ok ⟨[], none⟩
  | c :: more =>
    match spec.byLetter? c with
    | none => .error (.noSuchOption ['-', c])
    | some option =>
      if option.kind = .flag then
        (spec.readLetters more).map fun word =>
          { word with complete := (option, []) :: word.complete }
      else if more.isEmpty then .ok ⟨[], some (option, ['-', c])⟩
      else .ok ⟨[(option, more)], none⟩

/-- The name and the value of a word at its first equals sign. -/
def splitValue (word : Text) : Text × Option Text :=
  match word.dropWhile (· ≠ '=') with
  | [] => (word, none)
  | _ :: value => (word.takeWhile (· ≠ '='), some value)

/-- Reads a word that starts with a dash: a long name, or else letters after one dash. -/
def readOption (spec : CommandSpec) (word : Text) : Except UsageError OptionWord :=
  let (name, value) := splitValue word
  match spec.byName? name with
  | some option =>
    if option.kind = .flag then
      match value with
      | none => .ok ⟨[(option, [])], none⟩
      | some _ => .error (.unwantedValue name)
    else
      match value with
      | none => .ok ⟨[], some (option, name)⟩
      | some value => .ok ⟨[(option, value)], none⟩
  | none =>
    if (Text.lit "--").isPrefixOf word then .error (.noSuchOption name)
    else spec.readLetters word.tail

/-- Whether a word holds options. -/
def isOptionWord : Text → Bool
  | '-' :: _ :: _ => true
  | _ => false

/-- The options and arguments of a command line. -/
def parse (spec : CommandSpec) : List Text → Except UsageError Parsed
  | [] => .ok ⟨[], []⟩
  | word :: words =>
    if word = Text.lit "--" then .ok ⟨[], words⟩
    else if isOptionWord word then
      match spec.readOption word with
      | .error e => .error e
      | .ok ⟨complete, none⟩ => (spec.parse words).map (·.withOptions complete)
      | .ok ⟨complete, some (option, name)⟩ =>
        match words with
        | [] => .error (.missingValue name)
        | value :: rest => (spec.parse rest).map (·.withOptions (complete ++ [(option, value)]))
    else (spec.parse words).map (·.withArgument word)

/-! ## Texts -/

/-- The synopsis of a command. -/
def usage (spec : CommandSpec) : Text :=
  Text.lit "Usage: " ++ spec.name ++ Text.lit " [OPTIONS] " ++ spec.synopsis ++ ['\n']

/-- The text for a wrong command line. -/
def usageText (spec : CommandSpec) (e : UsageError) : Text :=
  let complaint := Text.lit "Error: " ++ e.message ++ ['\n']
  if e.isAboutForm then complaint
  else
    spec.usage ++ Text.lit "Try '" ++ spec.name ++ Text.lit " --help' for help.\n\n" ++ complaint

/-- An option as a line of the help text, with its purpose in a second column. -/
def helpLine (width : Nat) (option : OptionSpec) : Text :=
  let title := option.title
  let purpose :=
    if option.purpose.isEmpty then []
    else List.replicate (width + 2 - title.length) ' ' ++ option.purpose
  Text.lit "  " ++ title ++ purpose ++ ['\n']

/-- The help text of a command. -/
def help (spec : CommandSpec) : Text :=
  let width := spec.options.foldl (fun n option => max n option.title.length) 0
  spec.usage ++ Text.lit "\n  " ++ spec.purpose ++ Text.lit "\n\nOptions:\n" ++
    spec.options.flatMap (helpLine width)

end CommandSpec
end StubGraft
