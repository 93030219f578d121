import StubGraft.Error
import StubGraft.Pattern.Reading

/-!
# The surroundings of settings

Whether a pattern can be read and whether a value can be shown depends on the stack that is left
where the settings are used.  It is taken to be the same at every use.
-/

namespace StubGraft

/-- What the use of settings takes from its surroundings. -/
structure Environment where
  /-- What a stub pattern is compiled in. -/
  pattern : Pattern.Environment
  /-- How many levels of a value can be shown below its own. -/
  levels : Nat

namespace Environment

/-- The surroundings where the stack is as deep as it can be. -/
def plain : Environment := ⟨.plain, 1000⟩

/-- The fault that stands in the way of showing a value here. -/
def showFault? (environment : Environment) (value : Value) : Option Value.ShowFault :=
  value.showFault? (environment.levels + 1)

/-- The error whose message shows a value, or that of not being able to show it. -/
def showing (environment : Environment) (value : Value) (e : Error) : Error :=
  match environment.showFault? value with
  | none => e
  | some fault => .valueNotShown fault

end Environment
end StubGraft
