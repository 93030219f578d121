import StubGraft.Disk.Action
import StubGraft.Merge.Render
import StubGraft.Pattern.Error
import StubGraft.Text.Points
import StubGraft.Value.Display
import StubGraft.Value.Reader

/-!
# Errors

Every way in which the library can fail, by its cause.  The errors that a user is told about
have a category; the others are accidents of settings and paths that no step expects, and
escape.

Main notions:

* `Error`: the causes;
* `Error.category?`: the category of an error that is reported;
* `Error.message`: the wording.
-/

namespace StubGraft

/-- The kinds of errors that are reported. -/
inductive Category where
  /-- An argument or a setting is wrong. -/
  | argument
  /-- The grammar has another extension. -/
  | extension
  /-- The edited visitor cannot be copied. -/
  | backup
  /-- The tool fails. -/
  | generation
  /-- A visitor cannot be read. -/
  | parse
  /-- A visitor cannot be written. -/
  | write
  deriving DecidableEq, Repr

/-- The name of a category. -/
def Category.name : Category → String
  | .argument => "ArgumentError"
  | .extension => "ExtensionError"
  | .backup => "BackupError"
  | .generation => "GenerationError"
  | .parse => "ParseError"
  | .write => "WriteError"

/-- Why the tool cannot be started. -/
inductive LaunchFault where
  /-- The starting fails with this text. -/
  | failure (text : Text)
  /-- The system refuses with a number and a text, perhaps on a file. -/
  | refusal (code : Int) (text : Text) (file : Option Text)
  deriving DecidableEq, Repr

/-- The wording of a failed start. -/
def LaunchFault.message : LaunchFault → String
  | .failure text => text.toStr
  | .refusal code text file =>
    let place := "[Errno " ++ toString code ++ "] " ++ text.toStr
    match file with
    | none => place
    | some file => place ++ ": " ++ file.quoted.toStr

/-- A cause of failure. -/
inductive Error where
  /-- No conventions are known for a language. -/
  | unsupportedLanguage (name : Value)
  /-- The settings are no object. -/
  | settingsNotObject (value : Value)
  /-- The output section of the settings is no object. -/
  | outputNotObject (value : Value)
  /-- The stub pattern is no text. -/
  | patternNotText (value : Value)
  /-- The stub pattern does not compile. -/
  | invalidPattern (pattern : Text) (problem : Pattern.Problem) (position : Option Nat)
  /-- The import marker is no text, or empty. -/
  | invalidMarker (value : Value)
  /-- The number of header lines is no natural number. -/
  | invalidHeader (value : Value)
  /-- No grammar is given. -/
  | missingGrammar
  /-- The grammar is no file. -/
  | grammarNotFound (grammar : Path)
  /-- A settings file cannot be opened. -/
  | settingsUnreadable (path : Text) (e : SystemError)
  /-- A settings file is malformed. -/
  | settingsMalformed (path source : Text) (flaw : Flaw) (position : Nat)
  /-- A settings file holds no object. -/
  | settingsFileNotObject (path : Text) (value : Value)
  /-- The grammar has another extension than expected. -/
  | wrongExtension (expected : Value) (found : Text)
  /-- The visitor and its backup are the same file. -/
  | sameBackup (visitor backup : Path)
  /-- The visitor cannot be copied. -/
  | backupRefused (visitor backup : Path) (e : SystemError)
  /-- The tool cannot be started. -/
  | launch (fault : LaunchFault)
  /-- The tool ends with a code other than zero. -/
  | toolFailed (code : Int) (stderr : Text)
  /-- A visitor cannot be opened. -/
  | visitorUnreadable (label : Text) (e : SystemError)
  /-- A visitor is no UTF-8. -/
  | visitorUndecodable (label : Text) (e : Text.Utf8Error)
  /-- A text to be written has more braces of one kind. -/
  | unbalanced (opens closes : Nat)
  /-- A check of a text to be written fails with this text. -/
  | rejected (reason : Text)
  /-- The directory of a visitor cannot be made. -/
  | directoryRefused (directory : Path) (e : SystemError)
  /-- No temporary file can be created beside a visitor. -/
  | temporaryRefused (visitor : Path) (e : SystemError)
  /-- A visitor cannot be written. -/
  | writeRefused (visitor : Path) (e : SystemError)
  /-- A setting stands in place of an operation. -/
  | notCallable (value : Value)
  /-- A setting has no length. -/
  | noLength (value : Value)
  /-- A setting cannot follow a name. -/
  | notConcatenable (value : Value)
  /-- A setting has no items. -/
  | notIterable (value : Value)
  /-- A word of the tool's command is no text. -/
  | wordNotText (index : Nat) (value : Value)
  /-- A path has no name. -/
  | emptyName (path : Path)
  /-- A name is not the name of a path. -/
  | invalidName (name : Text)
  /-- A path holds a null character. -/
  | nullCharacter
  /-- An integer has too many digits. -/
  | tooManyDigits (count : Nat)
  /-- No stage has this name. -/
  | unknownStage (name : Value)
  /-- A span names a stub that is not recorded. -/
  | missingStub (name : Text)
  /-- A span ends after the last line. -/
  | lineOutOfRange
  /-- The spans lead back to a line that was passed before. -/
  | endlessSpan
  /-- A run has no stages. -/
  | emptyHistory
  /-- The system refuses to look at a path. -/
  | system (e : SystemError)
  /-- The bound of a repetition in the stub pattern is too great. -/
  | repetitionTooLarge
  /-- The stub pattern nests too deeply. -/
  | patternTooDeep
  /-- A settings file is no UTF-8. -/
  | settingsUndecodable (e : Text.Utf8Error)
  /-- What the tool has printed is no UTF-8. -/
  | outputUndecodable (e : Text.Utf8Error)
  /-- What is to be written holds surrogates. -/
  | contentUnencodable (found : Surrogates)
  /-- A value is to be the class of the settings. -/
  | classNotReplaced (value : Value)
  /-- A value is to stand in place of all attributes of the settings. -/
  | attributesNotObject (value : Value)
  /-- An attribute of the settings cannot be set. -/
  | attributeReadOnly
  /-- Something of a kind has no such attribute. -/
  | missingAttribute (kind name : String)
  /-- A message cannot show a value. -/
  | valueNotShown (fault : Value.ShowFault)

namespace Error

/-- The category of an error that is reported; the others escape. -/
def category? : Error → Option Category
  | .unsupportedLanguage .. | .settingsNotObject .. | .outputNotObject .. | .patternNotText ..
  | .invalidPattern .. | .invalidMarker .. | .invalidHeader .. | .missingGrammar
  | .grammarNotFound .. | .settingsUnreadable .. | .settingsMalformed ..
  | .settingsFileNotObject .. => some .argument
  | .wrongExtension .. => some .extension
  | .sameBackup .. | .backupRefused .. => some .backup
  | .launch .. | .toolFailed .. => some .generation
  | .visitorUnreadable .. | .visitorUndecodable .. => some .parse
  | .unbalanced .. | .rejected .. | .directoryRefused .. | .temporaryRefused ..
  | .writeRefused .. => some .write
  | _ => none

/-- Why a value is no pattern. -/
def patternReason : Value → String
  | .array _ => "unhashable type: 'list'"
  | .object _ => "unhashable type: 'dict'"
  | _ => "first argument must be string or compiled pattern"

/-- A path as it is shown inside a message about two paths. -/
def shownPath (p : Path) : String := "PosixPath(" ++ p.toText.quoted.toStr ++ ")"

/-- The wording of an error. -/
def message : Error → String
  | .unsupportedLanguage name =>
    "Unsupported target language " ++ name.inspect.toStr ++ " (supported: JavaScript)"
  | .settingsNotObject value => "Config must be a JSON object, got " ++ value.kind
  | .outputNotObject value => "Config 'output' must be a JSON object, got " ++ value.kind
  | .patternNotText value =>
    "Invalid stub_pattern " ++ value.inspect.toStr ++ ": " ++ patternReason value
  | .invalidPattern pattern problem position =>
    "Invalid stub_pattern " ++ pattern.quoted.toStr ++ ": " ++
      (Pattern.Fault.invalid problem position).message pattern
  | .invalidMarker value =>
    "Invalid import_marker " ++ value.inspect.toStr ++ ": expected a non-empty string"
  | .invalidHeader value =>
    "Invalid header_lines " ++ value.inspect.toStr ++ ": expected a non-negative integer"
  | .missingGrammar => "Not enough arguments: expected a grammar file"
  | .grammarNotFound grammar => "Grammar file not found: " ++ grammar.toText.toStr
  | .settingsUnreadable path e => "Invalid config file " ++ path.toStr ++ ": " ++ e.message
  | .settingsMalformed path source flaw position =>
    "Invalid config file " ++ path.toStr ++ ": " ++
      (ReadError.malformed flaw position).message source
  | .settingsFileNotObject path value =>
    "Invalid config file " ++ path.toStr ++ ": expected a JSON object, got " ++ value.kind
  | .wrongExtension expected found =>
    "Expected extension " ++ expected.display.toStr ++ " but got " ++
      (if found.isEmpty then "(none)" else found.toStr)
  | .sameBackup visitor backup =>
    "Could not copy " ++ visitor.toText.toStr ++ " to " ++ backup.toText.toStr ++ ": " ++
      shownPath visitor ++ " and " ++ shownPath backup ++ " are the same file"
  | .backupRefused visitor backup e =>
    "Could not copy " ++ visitor.toText.toStr ++ " to " ++ backup.toText.toStr ++ ": " ++ e.message
  | .launch fault => "Could not regenerate visitor with antlr: " ++ fault.message
  | .toolFailed code stderr =>
    "Could not regenerate visitor with antlr (exit code " ++ toString code ++ "): " ++ stderr.toStr
  | .visitorUnreadable label e =>
    "Could not read visitor file " ++ label.toStr ++ ": " ++ e.message
  | .visitorUndecodable label e =>
    "Could not read visitor file " ++ label.toStr ++ ": " ++ e.message
  | .unbalanced opens closes =>
    "Merged visitor has unbalanced braces: " ++ toString opens ++ " open, " ++ toString closes ++
      " close"
  | .rejected reason => reason.toStr
  | .directoryRefused directory e =>
    "Could not create directory " ++ directory.toText.toStr ++ ": " ++ e.message
  | .temporaryRefused visitor e =>
    "Could not create temporary file next to " ++ visitor.toText.toStr ++ ": " ++ e.message
  | .writeRefused visitor e =>
    "Could not write visitor file " ++ visitor.toText.toStr ++ ": " ++ e.message
  | .notCallable value => "'" ++ value.kind ++ "' object is not callable"
  | .noLength value => "object of type '" ++ value.kind ++ "' has no len()"
  | .notConcatenable value => "can only concatenate str (not \"" ++ value.kind ++ "\") to str"
  | .notIterable value => "'" ++ value.kind ++ "' object is not iterable"
  | .wordNotText index value =>
    "sequence item " ++ toString index ++ ": expected str instance, " ++ value.kind ++ " found"
  | .emptyName path => shownPath path ++ " has an empty name"
  | .invalidName name => "Invalid name " ++ name.quoted.toStr
  | .nullCharacter => nullCharacterMessage
  | .tooManyDigits count => tooManyDigitsMessage count
  | .unknownStage name => name.inspect.toStr ++ " is not a valid RegenerationState"
  | .missingStub name => name.quoted.toStr
  | .lineOutOfRange => "tuple index out of range"
  | .endlessSpan => "a span leads back to an earlier line"
  | .emptyHistory => "list index out of range"
  | .system e => e.message
  | .repetitionTooLarge => Pattern.Fault.repetitionTooLarge.message []
  | .patternTooDeep => Pattern.Fault.tooDeep.message []
  | .settingsUndecodable e => e.message
  | .outputUndecodable e => e.message
  | .contentUnencodable found => found.message
  | .classNotReplaced value => "__class__ must be set to a class, not '" ++ value.kind ++ "' object"
  | .attributesNotObject value =>
    "__dict__ must be set to a dictionary, not a '" ++ value.kind ++ "'"
  | .attributeReadOnly => "attribute '__weakref__' of 'RegenerateConfig' objects is not writable"
  | .missingAttribute kind name => "'" ++ kind ++ "' object has no attribute '" ++ name ++ "'"
  | .valueNotShown fault => fault.message

/-- The error of a model that cannot be rendered. -/
def ofRender : RenderError → Error
  | .missingStub name => .missingStub name
  | .lineOutOfRange => .lineOutOfRange
  | .endless => .endlessSpan

/-- The error of a name that cannot be given to a path. -/
def ofNameFault : Path.NameFault → Error
  | .emptyName path => .emptyName path
  | .invalidName name => .invalidName name

end Error
end StubGraft
