import StubGraft.Settings.Basic

/-!
# The names of a run

From the path of a grammar follow the path of its visitor, that of the backup, and the words
that start the tool.

Main notions:

* `resolveGrammar`: the grammar that an argument names;
* `visitorPath`, `backupPath`: the files of a run;
* `toolCommand`, `toolWords`, `checkWords`: how the tool is called.
-/

namespace StubGraft

namespace Settings

/-- Whether a value is the given text. -/
def isText (value : Value) (t : Text) : Bool :=
  match value with
  | .text u => u = t
  | _ => false

/-- The grammar that an argument names: an existing file with the extension of grammars. -/
def resolveGrammar (settings : Settings) (disk : Disk) (argument : Option Text) :
    Except Error Path :=
  match argument with
  | none | some [] => .error .missingGrammar
  | some argument =>
    if argument.contains '\x00' then .error .nullCharacter
    else
      let grammar := (Path.ofText argument).resolve disk.workdir
      if !isText settings.grammarExtension grammar.suffix then
        .error (settings.environment.showing settings.grammarExtension
          (.wrongExtension settings.grammarExtension grammar.suffix))
      else
        match disk.isFile? grammar.toText with
        | .error e => .error (.system e)
        | .ok false => .error (.grammarNotFound grammar)
        | .ok true => .ok grammar

/-- The length of a value that has items. -/
def lengthOf : Value → Except Error Nat
  | .text t => .ok t.length
  | .array items => .ok items.length
  | .object fields => .ok fields.length
  | value => .error (.noLength value)

/-- The text without its last `n` characters; taking none away leaves nothing. -/
def dropLastChars (t : Text) (n : Nat) : Text := if n = 0 then [] else t.take (t.length - n)

/-- The path of the visitor of a grammar: in the same directory, with the extension of the name
replaced. -/
def visitorPath (settings : Settings) (grammar : Path) : Except Error Path := do
  let profile ← settings.profile
  let count ← lengthOf settings.grammarExtension
  return grammar.parent.child
    (dropLastChars grammar.name count ++ Text.lit "Visitor" ++ profile.extension)

/-- The path of the backup of a visitor: its name with the suffix appended. -/
def backupPath (settings : Settings) (visitor : Path) : Except Error Path :=
  match settings.backupSuffix with
  | .text suffix => (visitor.withName? (visitor.name ++ suffix)).mapError Error.ofNameFault
  | value => .error (.notConcatenable value)

/-- The items of a value: the characters of a text, the items of an array, the keys of an object. -/
def itemsOf : Value → Except Error (List Value)
  | .text t => .ok (t.map fun c => .text [c])
  | .array items => .ok items
  | .object fields => .ok (fields.map fun entry => .text entry.1)
  | value => .error (.notIterable value)

/-- The command that starts the tool on a grammar. -/
def toolCommand (settings : Settings) (grammar : Path) : Except Error (List Value) := do
  let extra ← itemsOf (← settings.readExtraArgs)
  return [settings.java, .text (Text.lit "-jar"), settings.antlrJar,
    .text (Text.lit "-Dlanguage=" ++ settings.language.display), .text grammar.toText,
    .text (Text.lit "-visitor"), .text (Text.lit "-no-listener")] ++ extra

/-- The words of a command, all of which have to be texts; `index` is the place of the first. -/
def wordsFrom (index : Nat) : List Value → Except Error (List Text)
  | [] => .ok []
  | .text t :: more => (wordsFrom (index + 1) more).map (t :: ·)
  | value :: _ => .error (.wordNotText index value)

/-- The words that start the tool on a grammar. -/
def toolWords (settings : Settings) (grammar : Path) : Except Error (List Text) := do
  wordsFrom 0 (← settings.toolCommand grammar)

/-- No program is started with a null character in its words. -/
def checkWords (words : List Text) : Except Error Unit :=
  if words.any fun word => word.contains '\x00' then .error .nullCharacter else .ok ()

end Settings
end StubGraft
