import StubGraft.Pattern.Compile
import StubGraft.Pattern.Matcher
import StubGraft.Settings.Environment
import StubGraft.Visitor.Convention

/-!
# Language profiles

A profile holds the conventions of the visitor files of one target language.

Main notions:

* `Profile`: the conventions, with the text of the stub pattern and its expression;
* `Profile.javaScript`: the built-in profile;
* `Profile.ofLanguage`: the profile of a language by its name;
* `Profile.convention`: what the scanner needs of a profile.
-/

namespace StubGraft

/-- The conventions of the visitor files of a language. -/
structure Profile where
  /-- The name of the language. -/
  name : Text
  /-- The extension of visitor files. -/
  extension : Text
  /-- The text of the pattern of declaring lines. -/
  pattern : Text
  /-- The expression of that pattern. -/
  expression : Pattern.Node
  /-- What an import line contains. -/
  importMarker : Text
  /-- How many lines the generated header has. -/
  headerLines : Nat

namespace Profile

/-- A function assigned to a name, with one parameter. -/
def javaScriptPattern : Text :=
  Text.lit "^[A-Za-z_$][\\w$.]*\\s*=\\s*function\\s*\\(\\s*[A-Za-z_$][\\w$]*\\s*\\)"

/-- The profile of JavaScript. -/
def javaScript : Profile where
  name := Text.lit "JavaScript"
  extension := Text.lit ".js"
  pattern := javaScriptPattern
  expression := (Pattern.compile .plain javaScriptPattern).toOption.getD .empty
  importMarker := Text.lit "require("
  headerLines := 3

/-- The profile of a language by its name. -/
def ofLanguage (environment : Environment) (name : Value) : Except Error Profile :=
  match name with
  | .text t => if t = javaScript.name then .ok javaScript else .error (.unsupportedLanguage name)
  | _ => .error (environment.showing name (.unsupportedLanguage name))

/-- What the scanner needs to know of a profile. -/
def convention (profile : Profile) : Convention where
  declares := profile.expression.accepts
  marker := profile.importMarker
  headerLines := profile.headerLines

end Profile
end StubGraft
