import StubGraft.Settings.Profile

/-!
# Settings

Settings say how visitors are regenerated.  They come from an object of any values, and a
value of the wrong kind is found out only where it is used, so every setting is kept as the
value it is.  This is the class `RegenerateConfig` with its `from_dict`, `to_dict` and `profile`.

A key of the object sets whatever attribute it names, and so may hide an operation of the settings
or replace their whole table of attributes.  Then an attribute without a default of the class is
lost, which is found out when it is read.

Main notions:

* `Settings`, `Settings.default`: all settings;
* `Settings.ofValue`: the settings of an object, which overlay the default ones (`from_dict`);
* `Settings.fields`, `Settings.toValue`: the settings as an object (`to_dict`);
* `Settings.profile`: the profile of the language with the overrides of the settings.
-/

namespace StubGraft

/-- How merged files are written. -/
structure OutputSettings where
  /-- Whether to write through a temporary file. -/
  atomicWrite : Value
  /-- Whether to check the braces before writing. -/
  validateBeforeWrite : Value

/-- What stands in place of the output settings when the table of attributes has been replaced. -/
inductive LostOutput where
  /-- Nothing. -/
  | absent
  /-- A bare value. -/
  | bare (value : Value)

/-- How visitors are regenerated. -/
structure Settings where
  /-- The target language. -/
  language : Value
  /-- The program that runs the tool. -/
  java : Value
  /-- Where the tool is. -/
  antlrJar : Value
  /-- Further words for the tool. -/
  extraArgs : Value
  /-- The extension of grammars. -/
  grammarExtension : Value
  /-- What is appended to a visitor's name for its backup. -/
  backupSuffix : Value
  /-- The pattern of declaring lines; null for that of the language. -/
  stubPattern : Value
  /-- What an import line contains; null for that of the language. -/
  importMarker : Value
  /-- How many lines the header has; null for that of the language. -/
  headerLines : Value
  /-- How merged files are written. -/
  output : OutputSettings
  /-- A value that stands in place of the profile. -/
  profileOverride : Option Value
  /-- A value that stands in place of the listing of the settings. -/
  listingOverride : Option Value
  /-- Whether the further words have been lost. -/
  extraArgsLost : Bool
  /-- What stands in place of the output settings, if they have been lost. -/
  outputLost : Option LostOutput
  /-- Where the settings are used. -/
  environment : Environment

namespace Settings

/-- The output settings when nothing is said. -/
def defaultOutput : OutputSettings := ⟨.bool true, .bool true⟩

/-- The settings when nothing is said. -/
def default : Settings where
  language := .text (Text.lit "JavaScript")
  java := .text (Text.lit "java")
  antlrJar := .text (Text.lit "/usr/local/lib/antlr-4.7.2-complete.jar")
  extraArgs := .array []
  grammarExtension := .text (Text.lit ".g4")
  backupSuffix := .text (Text.lit ".old")
  stubPattern := .null
  importMarker := .null
  headerLines := .null
  output := defaultOutput
  profileOverride := none
  listingOverride := none
  extraArgsLost := false
  outputLost := none
  environment := .plain

/-- The output settings of an object; what it does not say is true. -/
def outputOf (fields : List (Text × Value)) : OutputSettings where
  atomicWrite := (Value.field? (Text.lit "atomic_write") fields).getD (.bool true)
  validateBeforeWrite := (Value.field? (Text.lit "validate_before_write") fields).getD (.bool true)

/-- The settings whose table of attributes is an object.  What the object does not say has the
default of the class; the further words and the output settings have none, and a value in the object
does not become output settings. -/
def ofAttributes (environment : Environment) (fields : List (Text × Value)) : Settings where
  language := (Value.field? (Text.lit "language") fields).getD default.language
  java := (Value.field? (Text.lit "java") fields).getD default.java
  antlrJar := (Value.field? (Text.lit "antlr_jar") fields).getD default.antlrJar
  extraArgs := (Value.field? (Text.lit "extra_args") fields).getD default.extraArgs
  grammarExtension :=
    (Value.field? (Text.lit "grammar_extension") fields).getD default.grammarExtension
  backupSuffix := (Value.field? (Text.lit "backup_suffix") fields).getD default.backupSuffix
  stubPattern := (Value.field? (Text.lit "stub_pattern") fields).getD default.stubPattern
  importMarker := (Value.field? (Text.lit "import_marker") fields).getD default.importMarker
  headerLines := (Value.field? (Text.lit "header_lines") fields).getD default.headerLines
  output := defaultOutput
  profileOverride := Value.field? (Text.lit "profile") fields
  listingOverride := Value.field? (Text.lit "to_dict") fields
  extraArgsLost := (Value.field? (Text.lit "extra_args") fields).isNone
  outputLost := some (((Value.field? (Text.lit "output") fields).map .bare).getD .absent)
  environment := environment

/-- The settings with one of them set by its key; the key of nothing that there is changes nothing.
-/
def set (settings : Settings) (key : Text) (value : Value) : Except Error Settings :=
  if key = Text.lit "output" then
    match value with
    | .object fields => .ok { settings with output := outputOf fields, outputLost := none }
    | _ => .error (.outputNotObject value)
  else if key = Text.lit "__class__" then .error (.classNotReplaced value)
  else if key = Text.lit "__weakref__" then .error .attributeReadOnly
  else if key = Text.lit "__dict__" then
    match value with
    | .object fields => .ok (ofAttributes settings.environment fields)
    | _ => .error (.attributesNotObject value)
  else if key = Text.lit "language" then .ok { settings with language := value }
  else if key = Text.lit "java" then .ok { settings with java := value }
  else if key = Text.lit "antlr_jar" then .ok { settings with antlrJar := value }
  else if key = Text.lit "extra_args" then
    .ok (if settings.extraArgsLost then settings else { settings with extraArgs := value })
  else if key = Text.lit "grammar_extension" then .ok { settings with grammarExtension := value }
  else if key = Text.lit "backup_suffix" then .ok { settings with backupSuffix := value }
  else if key = Text.lit "stub_pattern" then .ok { settings with stubPattern := value }
  else if key = Text.lit "import_marker" then .ok { settings with importMarker := value }
  else if key = Text.lit "header_lines" then .ok { settings with headerLines := value }
  else if key = Text.lit "profile" then .ok { settings with profileOverride := some value }
  else if key = Text.lit "to_dict" then .ok { settings with listingOverride := some value }
  else .ok settings

/-- The settings with several of them set, one after the other. -/
def setAll (settings : Settings) : List (Text × Value) → Except Error Settings
  | [] => .ok settings
  | (key, value) :: fields =>
    match settings.set key value with
    | .error e => .error e
    | .ok next => next.setAll fields

/-- The settings of a value, which has to be an object. -/
def ofValue (environment : Environment) : Value → Except Error Settings
  | .object fields => { default with environment }.setAll fields
  | value => .error (.settingsNotObject value)

/-- The further words, where they are still there. -/
def readExtraArgs (settings : Settings) : Except Error Value :=
  if settings.extraArgsLost then .error (.missingAttribute "RegenerateConfig" "extra_args")
  else .ok settings.extraArgs

/-- The output settings, where they are still there. -/
def readOutput (settings : Settings) : Except Error OutputSettings :=
  match settings.outputLost with
  | none => .ok settings.output
  | some .absent => .error (.missingAttribute "RegenerateConfig" "output")
  | some (.bare value) => .error (.missingAttribute value.kind "atomic_write")

/-- The settings as the fields of an object. -/
def fields (settings : Settings) : List (Text × Value) :=
  [(Text.lit "language", settings.language),
    (Text.lit "java", settings.java),
    (Text.lit "antlr_jar", settings.antlrJar),
    (Text.lit "extra_args", settings.extraArgs),
    (Text.lit "grammar_extension", settings.grammarExtension),
    (Text.lit "backup_suffix", settings.backupSuffix),
    (Text.lit "stub_pattern", settings.stubPattern),
    (Text.lit "import_marker", settings.importMarker),
    (Text.lit "header_lines", settings.headerLines),
    (Text.lit "output", .object
      [(Text.lit "atomic_write", settings.output.atomicWrite),
        (Text.lit "validate_before_write", settings.output.validateBeforeWrite)])]

/-- The settings as an object, unless a value stands in its place. -/
def toValue (settings : Settings) : Except Error Value := do
  match settings.listingOverride with
  | some value => throw (.notCallable value)
  | none =>
    let _ ← settings.readExtraArgs
    let _ ← settings.readOutput
    return .object settings.fields

/-- The stub pattern with its expression; null keeps that of the language. -/
def patternOf (environment : Environment) (base : Profile) :
    Value → Except Error (Text × Pattern.Node)
  | .null => .ok (base.pattern, base.expression)
  | .text source =>
    match Pattern.compile environment.pattern source with
    | .ok expression => .ok (source, expression)
    | .error (.invalid problem position) => .error (.invalidPattern source problem position)
    | .error .repetitionTooLarge => .error .repetitionTooLarge
    | .error .tooDeep => .error .patternTooDeep
  | value => .error (environment.showing value (.patternNotText value))

/-- The import marker, a text that is not empty; null keeps that of the language. -/
def markerOf (environment : Environment) (base : Profile) : Value → Except Error Text
  | .null => .ok base.importMarker
  | .text marker => if marker.isEmpty then .error (.invalidMarker (.text marker)) else .ok marker
  | value => .error (environment.showing value (.invalidMarker value))

/-- The number of header lines, a natural number; null keeps that of the language. -/
def headerOf (environment : Environment) (base : Profile) : Value → Except Error Nat
  | .null => .ok base.headerLines
  | .int (.ofNat n) => .ok n
  | value => .error (environment.showing value (.invalidHeader value))

/-- The profile of the language with the overrides of the settings, checked in this order: language,
pattern, marker, header. -/
def profile (settings : Settings) : Except Error Profile := do
  match settings.profileOverride with
  | some value => throw (.notCallable value)
  | none =>
    let base ← Profile.ofLanguage settings.environment settings.language
    let (pattern, expression) ← patternOf settings.environment base settings.stubPattern
    let importMarker ← markerOf settings.environment base settings.importMarker
    let headerLines ← headerOf settings.environment base settings.headerLines
    return { base with pattern, expression, importMarker, headerLines }

end Settings
end StubGraft
