import StubGraft.Settings.Basic

/-!
# Settings files

Settings are read from a file, if one is named, and the place of the tool can be given apart.
-/

namespace StubGraft.Settings

/-- The text of a settings file. -/
def readSource (disk : Disk) (path : Text) : Except Error Text :=
  match disk.readBytes path with
  | .error .nullCharacter => .error .nullCharacter
  | .error (.system e) => .error (.settingsUnreadable path e)
  | .ok bytes =>
    match Text.decodeUtf8 bytes with
    | .error e => .error (.settingsUndecodable e)
    | .ok t => .ok t.uniformLineEnds

/-- The settings of a file. -/
def ofFile (environment : Environment) (disk : Disk) (path : Text) :
    Except Error Settings :=
  match readSource disk path with
  | .error e => .error e
  | .ok source =>
    match Value.read source with
    | .error (.malformed flaw position) => .error (.settingsMalformed path source flaw position)
    | .error (.tooManyDigits count) => .error (.tooManyDigits count)
    | .ok (.object fields) => ofValue environment (.object fields)
    | .ok value => .error (.settingsFileNotObject path value)

/-- The settings of a file, or the default ones, with the place of the tool replaced if one is
given. -/
def load (environment : Environment) (disk : Disk) (path : Option Text)
    (antlrJar : Option Text) : Except Error Settings := do
  let settings ←
    match path with
    | none => pure { default with environment }
    | some path => ofFile environment disk path
  match antlrJar with
  | some (c :: rest) => return { settings with antlrJar := .text (c :: rest) }
  | _ => return settings

end StubGraft.Settings
