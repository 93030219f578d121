import StubGraft.Proofs.Edits
import StubGraft.Proofs.Runs

/-!
# Runs that return

What a run does if no step of it fails.  Where a rule for how actions end has to speak of every
error, a rule for how they return says exactly when an action returns and what it returns, so that
it can be read in both directions: what a run that has returned must have found, and what a run has
to find to return.

* `Returns` — an action returns, and a property holds of its result and of the state.
* `Writer.returns_write`, `Regenerator.reaches_mergeFiles` — when files are written and merged.
* `Regenerator.Proceeds` — the disks that a run passes through.
* `Regenerator.reaches_run` — a run returns exactly if it can pass through them.
-/

namespace StubGraft

open Disk Writer

/-! ## Rules -/

/-- From a state on, an action returns a result, and a property holds of it and of the state. -/
def Returns {ε σ α : Type} (action : ExceptT ε (StateM σ) α) (state : σ)
    (post : α → σ → Prop) : Prop :=
  Ends action state fun result after => ∃ a, result = .ok a ∧ post a after

section Rules

variable {ε σ α β : Type} {state : σ}

theorem Returns.mono {action : ExceptT ε (StateM σ) α} {post weaker : α → σ → Prop}
    (h : Returns action state post) (himp : ∀ a after, post a after → weaker a after) :
    Returns action state weaker :=
  Ends.mono h fun _ after ⟨a, ha, hpost⟩ => ⟨a, ha, himp a after hpost⟩

theorem returns_congr {action : ExceptT ε (StateM σ) α} {post post' : α → σ → Prop}
    (h : ∀ a after, post a after ↔ post' a after) :
    Returns action state post ↔ Returns action state post' :=
  ⟨fun hpost => hpost.mono fun a after => (h a after).1,
    fun hpost => hpost.mono fun a after => (h a after).2⟩

/-- What does not depend on the result may stand before. -/
theorem returns_and {action : ExceptT ε (StateM σ) α} {p : Prop} {post : α → σ → Prop} :
    Returns action state (fun a after => p ∧ post a after) ↔ p ∧ Returns action state post := by
  constructor
  · rintro ⟨a, ha, hp, hpost⟩
    exact ⟨hp, a, ha, hpost⟩
  · rintro ⟨hp, a, ha, hpost⟩
    exact ⟨a, ha, hp, hpost⟩

/-- An action that returns has one result and one state after it. -/
theorem Returns.exists_eq {action : ExceptT ε (StateM σ) α} {post : α → σ → Prop}
    (h : Returns action state post) :
    ∃ a after, post a after ∧ Returns action state fun b last => b = a ∧ last = after := by
  obtain ⟨a, ha, hpost⟩ := h
  exact ⟨a, _, hpost, a, ha, rfl, rfl⟩

theorem returns_iff_of_ends {action : ExceptT ε (StateM σ) α} {a : α} {after : σ}
    {post : α → σ → Prop}
    (h : Ends action state fun result last => result = .ok a ∧ last = after) :
    Returns action state post ↔ post a after := by
  obtain ⟨hresult, hstate⟩ := h
  rw [Returns, Ends, hresult, hstate]
  simp

theorem returns_pure {a : α} {post : α → σ → Prop} :
    Returns (pure a : ExceptT ε (StateM σ) α) state post ↔ post a state := by
  rw [Returns, ends_pure]
  simp

theorem returns_throw {e : ε} {post : α → σ → Prop} :
    ¬ Returns (throw e : ExceptT ε (StateM σ) α) state post := by
  rintro ⟨a, ha, -⟩
  have herror : Except.error e = Except.ok a := ha
  exact absurd herror (by simp)

/-- A sequence returns exactly if both of its steps do. -/
theorem returns_bind {action : ExceptT ε (StateM σ) α} {next : α → ExceptT ε (StateM σ) β}
    {post : β → σ → Prop} :
    Returns (action >>= next) state post ↔
      Returns action state fun a middle => Returns (next a) middle post := by
  rw [Returns, ends_bind, Returns]
  constructor
  · intro h
    refine h.mono ?_
    rintro (e | a) middle h
    · obtain ⟨b, hb, -⟩ := h
      exact absurd hb (by simp)
    · exact ⟨a, rfl, h⟩
  · intro h
    refine h.mono ?_
    rintro _ middle ⟨a, rfl, h⟩
    exact h

theorem returns_get {post : σ → σ → Prop} :
    Returns (get : ExceptT ε (StateM σ) σ) state post ↔ post state state := by
  rw [Returns, ends_get]
  simp

theorem returns_modify {f : σ → σ} {post : PUnit → σ → Prop} :
    Returns (modify f : ExceptT ε (StateM σ) PUnit) state post ↔ post ⟨⟩ (f state) := by
  rw [Returns, ends_modify]
  exact ⟨fun ⟨_, _, h⟩ => h, fun h => ⟨_, rfl, h⟩⟩

/-- Where errors are handled by failing, nothing else returns. -/
theorem returns_tryCatch {action : ExceptT ε (StateM σ) α} {handle : ε → ExceptT ε (StateM σ) α}
    {post : α → σ → Prop} (h : ∀ e middle, ¬ Returns (handle e) middle post) :
    Returns (tryCatch action handle) state post ↔ Returns action state post := by
  rw [Returns, ends_tryCatch, Returns]
  constructor
  · intro hcaught
    refine hcaught.mono ?_
    rintro (e | a) middle hmiddle
    · exact absurd hmiddle (h e middle)
    · exact hmiddle
  · intro haction
    refine haction.mono ?_
    rintro _ middle ⟨a, rfl, hpost⟩
    exact ⟨a, rfl, hpost⟩

/-- What holds of the results and of the errors of an action. -/
theorem Ends.of_returns {action : ExceptT ε (StateM σ) α}
    {post : Except ε α → σ → Prop}
    (hok : ∀ a after, Returns action state (fun b last => b = a ∧ last = after) →
      post (.ok a) after)
    (herror : Ends action state fun result after =>
      ∀ e, result = .error e → post (.error e) after) :
    Ends action state post := by
  unfold Ends at herror ⊢
  cases hresult : (action.run state).1 with
  | ok a => exact hok a _ ⟨a, hresult, rfl, rfl⟩
  | error e => exact herror e hresult

end Rules

namespace Action

variable {α : Type} {world : World}

theorem returns_ofExcept {result : Except Error α} {post : α → World → Prop} :
    Returns (ofExcept result) world post ↔ ∃ a, result = .ok a ∧ post a world := by
  rw [Returns, ends_ofExcept]

theorem returns_check {result : Except Error Unit} {post : Unit → World → Prop} :
    Returns (ofExcept result) world post ↔ result = .ok () ∧ post () world := by
  rw [returns_ofExcept]
  exact ⟨fun ⟨_, h⟩ => h, fun h => ⟨(), h⟩⟩

theorem returns_report {events : List Event} {post : Unit → World → Prop} :
    Returns (report events) world post ↔ post () { world with log := world.log ++ events } := by
  rw [Returns, ends_report]
  exact ⟨fun ⟨_, _, h⟩ => h, fun h => ⟨_, rfl, h⟩⟩

theorem returns_disk {post : Disk → World → Prop} :
    Returns Action.disk world post ↔ post world.disk world := by
  rw [Returns, ends_disk]
  simp

theorem returns_onDisk {operations : DiskAction α} {post : Except DiskFault α → World → Prop} :
    Returns (onDisk operations) world post ↔
      Ends operations world.disk fun result disk => post result { world with disk := disk } := by
  rw [Returns, ends_onDisk]
  exact ⟨fun h => h.mono fun _ _ ⟨_, hresult, hpost⟩ => Except.ok.inj hresult ▸ hpost,
    fun h => h.mono fun _ _ hpost => ⟨_, rfl, hpost⟩⟩

theorem returns_onDiskOr {refused : SystemError → Error} {operations : DiskAction α}
    {post : α → World → Prop} :
    Returns (onDiskOr refused operations) world post ↔
      Returns operations world.disk fun a disk => post a { world with disk := disk } := by
  rw [Returns, ends_onDiskOr, Returns]
  simp only [mapError_eq_ok_iff]

end Action

/-! ## Writing -/

/-- What returns on one disk returns on another of the same shape. -/
theorem DiskAction.Alike.returns {α : Type} {action : DiskAction α} {a b : Disk}
    {post : α → Disk → Prop} (h : DiskAction.Alike action) (hshape : SameShape a b)
    (hreturns : Returns action a post) : ∃ last, Returns action b fun _ disk => disk = last := by
  obtain ⟨x, hx, -⟩ := hreturns
  obtain ⟨hresult, -⟩ := h hshape
  exact ⟨_, x, hresult.trans hx, rfl⟩

namespace Writer

variable {path : Path} {bytes : List UInt8} {world : World} {post : Unit → World → Prop}

theorem returns_writeAtomic :
    Returns (writeAtomic path bytes) world post ↔
      Returns (place true path bytes) world.disk fun _ disk =>
        post () { world with disk := disk } := by
  unfold writeAtomic place
  rw [if_pos rfl, returns_bind, Action.returns_onDiskOr, returns_bind]
  refine returns_congr fun temporary disk => ?_
  rw [returns_bind, Action.returns_onDisk]
  constructor
  · intro h
    refine h.mono ?_
    rintro (fault | _) after hafter
    · -- after a refusal nothing returns
      cases fault with
      | nullCharacter => exact absurd hafter returns_throw
      | system e =>
        obtain ⟨_, -, hthrow⟩ := returns_bind.1 hafter
        exact absurd hthrow returns_throw
    · exact ⟨(), rfl, returns_pure.1 hafter⟩
  · intro h
    refine Ends.mono h ?_
    rintro _ after ⟨_, rfl, hpost⟩
    exact returns_pure.2 hpost

theorem returns_writeDirect :
    Returns (writeDirect path bytes) world post ↔
      Returns (place false path bytes) world.disk fun _ disk =>
        post () { world with disk := disk } := by
  unfold writeDirect place
  rw [if_neg (by simp), Action.returns_onDiskOr]

/-- A file that is put in its place is written there. -/
theorem written_of_place {atomic : Bool} {disk after : Disk}
    (h : Returns (place atomic path bytes) disk fun _ last => last = after) :
    ∃ l, Written disk path.toText bytes l after := by
  cases atomic with
  | true =>
    obtain ⟨_, hreturned, hdisk⟩ : Returns (writeAtomic path bytes) (World.ofDisk disk)
        fun _ world => world.disk = after := returns_writeAtomic.2 h
    have hends := ends_writeAtomic (World.ofDisk disk) path bytes
    rw [Ends, hreturned, hdisk] at hends
    exact hends
  | false =>
    obtain ⟨_, hreturned, hdisk⟩ : Returns (writeDirect path bytes) (World.ofDisk disk)
        fun _ world => world.disk = after := returns_writeDirect.2 h
    have hends := ends_writeDirect (World.ofDisk disk) path bytes
    rw [Ends, hreturned, hdisk] at hends
    exact hends

/-- A file is stored if its folder and then the file can be made. -/
theorem returns_store {writer : Writer} :
    Returns (writer.store path bytes) world post ↔
      Returns (DiskAction.makeDirectories path.parent) world.disk fun _ grown =>
        Returns (place writer.atomic path bytes) grown fun _ disk =>
          post () { world with disk := disk } := by
  unfold store
  rw [returns_bind, Action.returns_onDiskOr]
  refine returns_congr fun _ grown => ?_
  cases writer.atomic with
  | true => exact returns_writeAtomic
  | false => exact returns_writeDirect

/-- A content that has no bytes is not written. -/
theorem not_returns_abandon {writer : Writer} {found : Surrogates} :
    ¬ Returns (writer.abandon path found) world post := by
  unfold abandon
  rw [returns_bind, Action.returns_onDiskOr]
  rintro ⟨_, -, h⟩
  rw [returns_bind] at h
  obtain ⟨_, -, h⟩ := h
  exact returns_throw h

/-- A write returns exactly if the content passes its check, has bytes, and can be stored. -/
theorem returns_write {writer : Writer} {content : Points} {validate : Bool} :
    Returns (writer.write path content validate) world post ↔
      (validate = true → writer.check content = .ok ()) ∧
      ∃ bytes, content.encodeUtf8 = .ok bytes ∧
        Returns (DiskAction.makeDirectories path.parent) world.disk fun _ grown =>
          Returns (place writer.atomic path bytes) grown fun _ disk =>
            post () { world with disk := disk } := by
  rw [write_eq, returns_bind, Action.returns_check, checked_eq_ok_iff]
  refine and_congr_right fun _ => ?_
  cases content.encodeUtf8 with
  | error found => simpa using not_returns_abandon
  | ok bytes => simpa using returns_store

theorem returns_write_points {writer : Writer} {content : Text} {validate : Bool} :
    Returns (writer.write path content.points validate) world post ↔
      (validate = true → writer.check content.points = .ok ()) ∧
      Returns (DiskAction.makeDirectories path.parent) world.disk fun _ grown =>
        Returns (place writer.atomic path content.encodeUtf8) grown fun _ disk =>
          post () { world with disk := disk } := by
  simp [returns_write, content.encodeUtf8_points]

end Writer

/-! ## Reading and merging -/

theorem Profile.returns_readModel {profile : Profile} {source : Source} {world : World}
    {post : Model → World → Prop} :
    Returns (profile.readModel source) world post ↔
      ∃ text, world.disk.textAt? source.path.toText = some text ∧
        post (scan profile.convention text).1
          { world with log := world.log ++ (scan profile.convention text).2 } := by
  unfold Profile.readModel Disk.textAt? Text.ofBytes?
  rw [returns_bind, Action.returns_disk]
  cases world.disk.readBytes source.path.toText with
  | error fault =>
    cases fault with
    | nullCharacter => simpa using returns_throw
    | system e => simpa using returns_throw
  | ok bytes =>
    dsimp only
    cases Text.decodeUtf8 bytes with
    | error e => simpa using returns_throw
    | ok text =>
      dsimp only
      rw [returns_bind, Action.returns_report, returns_pure]
      simp

namespace Tool

/-- The tool can be started and ends with code zero. -/
def ExitsWell : Tool → Prop
  | .broken _ => False
  | .working _ code _ _ => code = 0

instance : DecidablePred ExitsWell
  | .broken _ => inferInstanceAs (Decidable False)
  | .working _ code _ _ => inferInstanceAs (Decidable (code = 0))

/-- All that the tool prints is UTF-8. -/
def PrintsUtf8 : Tool → Prop
  | .broken _ => True
  | .working _ _ stdout stderr =>
    (∃ t, Text.decodeUtf8 stdout = .ok t) ∧ ∃ t, Text.decodeUtf8 stderr = .ok t

/-- The tool ends well, and what it prints can be read. -/
def Succeeds (tool : Tool) : Prop := tool.ExitsWell ∧ tool.PrintsUtf8

theorem readPrinted_eq_ok_iff {bytes : List UInt8} :
    (∃ t, readPrinted bytes = .ok t) ↔ ∃ t, Text.decodeUtf8 bytes = .ok t := by
  unfold readPrinted
  cases Text.decodeUtf8 bytes <;> simp

theorem ending_eq_ok_iff {tool : Tool} : tool.ending = .ok () ↔ tool.Succeeds := by
  cases tool with
  | broken fault => simp [ending, Succeeds, ExitsWell]
  | working edits code stdout stderr =>
    simp only [ending, bind_eq_ok_iff, Succeeds, ExitsWell, PrintsUtf8, ← readPrinted_eq_ok_iff]
    by_cases hcode : code = 0
    · simp [hcode, pure, Except.pure]
    · simp [hcode, throw, throwThe, MonadExceptOf.throw]

/-- What cannot be read is found out before the code is looked at. -/
theorem ending_of_not_printsUtf8 {tool : Tool} (h : ¬ tool.PrintsUtf8) :
    ∃ e, tool.ending = .error (.outputUndecodable e) := by
  cases tool with
  | broken fault => exact absurd trivial h
  | working edits code stdout stderr =>
    cases hstdout : Text.decodeUtf8 stdout with
    | error e => exact ⟨e, by simp [ending, readPrinted, hstdout, bind, Except.bind]⟩
    | ok out =>
      cases hstderr : Text.decodeUtf8 stderr with
      | error e => exact ⟨e, by simp [ending, readPrinted, hstdout, hstderr, bind, Except.bind]⟩
      | ok err => exact absurd ⟨⟨out, hstdout⟩, err, hstderr⟩ h

end Tool

namespace Regenerator

variable {regenerator : Regenerator} {world : World}

theorem check_points (regenerator : Regenerator) (content : Text) :
    regenerator.writer.check content.points = checkBalanced content :=
  congrArg checkBalanced content.chars_points

/-- A text is written to a file, which takes a disk to another. -/
def Writes (regenerator : Regenerator) (path : Path) (content : Text) (disk after : Disk) : Prop :=
  (regenerator.settings.output.validateBeforeWrite.isTruthy = true →
    checkBalanced content = .ok ()) ∧
  Returns (DiskAction.makeDirectories path.parent) disk fun _ grown =>
    Returns (place regenerator.writer.atomic path content.encodeUtf8) grown fun _ last =>
      last = after

/-- Merging one file into another takes a disk to another: the same one if the files are
equivalent, else one on which the merge is written. -/
def Merges (regenerator : Regenerator) (old new : Path) (disk : Disk) (summary : Option Summary)
    (after : Disk) : Prop :=
  let convention := regenerator.profile.convention
  ∃ oldText, disk.textAt? old.toText = some oldText ∧
  ∃ newText, disk.textAt? new.toText = some newText ∧
    if equivalent (scan convention oldText).1 (scan convention newText).1 = true then
      summary = none ∧ after = disk
    else
      summary = some (summarize (scan convention oldText).1 (scan convention newText).1) ∧
      ∃ out, mergeTexts convention oldText newText = .ok out ∧
        regenerator.Writes new out disk after

/-- From a world on, an action returns a result and leaves a disk and a record. -/
def Reaches {α : Type} (action : Action α) (world : World) (a : α) (disk : Disk)
    (latest : Option Run) : Prop :=
  Returns action world fun result after =>
    result = a ∧ after.latest = latest ∧ after.disk = disk

theorem reaches_mergeFiles {old new : Path} {summary : Option Summary} {disk : Disk}
    {latest : Option Run} :
    Reaches (regenerator.mergeFiles (.ofPath old) (.ofPath new) none) world summary disk latest ↔
      latest = world.latest ∧ regenerator.Merges old new world.disk summary disk := by
  unfold Reaches mergeFiles Merges
  rw [returns_bind, Profile.returns_readModel, ← exists_and_left]
  refine exists_congr fun oldText => ?_
  rw [and_left_comm]
  refine and_congr_right fun _ => ?_
  rw [returns_bind, Profile.returns_readModel, ← exists_and_left]
  refine exists_congr fun newText => ?_
  rw [and_left_comm]
  refine and_congr_right fun _ => ?_
  dsimp only [Option.getD]
  split
  · rw [returns_bind, Action.returns_report, if_neg fun h => h rfl, returns_pure]
    simp only [and_left_comm, eq_comm]
  · rw [returns_bind, Action.returns_report, returns_bind, Action.returns_report, returns_bind,
      Action.returns_ofExcept]
    simp only [mapError_eq_ok_iff, returns_bind, returns_write_points, check_points,
      Action.returns_report, returns_pure, returns_and]
    constructor
    · rintro ⟨out, hout, hsummary, hcheck, hlatest, hplace⟩
      exact ⟨hlatest.symm, hsummary.symm, out, hout, hcheck, hplace⟩
    · rintro ⟨hlatest, hsummary, out, hout, hcheck, hplace⟩
      exact ⟨out, hout, hsummary.symm, hcheck, hlatest.symm, hplace⟩

/-! ## The steps before -/

theorem returns_isThere {path : Path} {post : Bool → World → Prop} :
    Returns (isThere path) world post ↔
      ∃ there, world.disk.exists? path.toText = .ok there ∧ post there world := by
  unfold isThere
  rw [returns_bind, Action.returns_disk, Action.returns_ofExcept]
  simp only [mapError_eq_ok_iff]

theorem returns_backUp {visitor backup : Path} {post : Unit → World → Prop} :
    Returns (backUp visitor backup) world post ↔
      ∃ copied, world.disk.copyFile visitor backup = .ok copied ∧
        post () { world with disk := copied, log := world.log ++ [.copied visitor backup] } := by
  unfold backUp
  rw [returns_bind, Action.returns_disk]
  cases world.disk.copyFile visitor backup with
  | ok copied =>
    dsimp only
    rw [returns_bind, returns_modify, Action.returns_report]
    simp
  | error fault =>
    rcases fault with _ | (_ | _)
    · simpa [returns_bind] using returns_throw
    · simpa [returns_bind] using returns_throw
    · simpa [returns_bind] using returns_throw

theorem returns_generate {settings : Settings} {tool : Tool} {grammar : Path}
    {post : Unit → World → Prop} :
    Returns (generate settings tool grammar) world post ↔
      ∃ words, settings.launchWords grammar = .ok words ∧ tool.Succeeds ∧
        post () { world with
          disk := tool.edited grammar.parent.parts world.disk
          log := world.log ++ [.running words] ++ [.regenerated grammar]
          launches := world.launches ++ [⟨words, grammar.parent⟩] } := by
  unfold generate
  rw [returns_bind, Action.returns_ofExcept]
  simp only [Settings.launchWords_eq_ok_iff, and_assoc]
  refine exists_congr fun words => and_congr_right fun _ => ?_
  rw [returns_bind, Action.returns_report, returns_bind, Action.returns_check]
  refine and_congr_right fun _ => ?_
  rw [returns_bind, returns_modify, returns_bind, Action.returns_check, Tool.ending_eq_ok_iff,
    Action.returns_report]

theorem returns_enter_iff {next : Stage} {post : Unit → World → Prop} :
    Returns (enter next) world post ↔
      match world.latest with
      | none => post () world
      | some run => ∃ current, run.stage = .ok current ∧
        post () { world with
          log := world.log ++ [.entered run.visitor.name current next]
          latest := some { run with history := run.history ++ [next] } } := by
  unfold enter
  rw [returns_bind, returns_get]
  cases world.latest with
  | none => exact returns_pure
  | some run =>
    dsimp only
    rw [returns_bind, Action.returns_ofExcept, Run.enter]
    cases run.stage with
    | error e => simp
    | ok current =>
      simp only [Except.ok.injEq, exists_eq_left']
      rw [returns_bind, Action.returns_report, returns_modify]

/-- A run whose stage is known enters the next one. -/
theorem returns_enter {run : Run} {current next : Stage} {post : Unit → World → Prop}
    (hrun : world.latest = some run) (hstage : run.stage = .ok current) :
    Returns (enter next) world post ↔
      post () { world with
        log := world.log ++ [.entered run.visitor.name current next]
        latest := some { run with history := run.history ++ [next] } } := by
  rw [returns_enter_iff, hrun]
  simp only [hstage, Except.ok.injEq, exists_eq_left']

theorem returns_updateRun {run : Run} {change : Run → Run} {post : Unit → World → Prop}
    (hrun : world.latest = some run) :
    Returns (updateRun change) world post ↔
      post () { world with latest := some (change run) } := by
  unfold updateRun
  rw [returns_modify, hrun]
  rfl

/-! ## Whole runs -/

/-- The steps of a run once the visitor has been copied, if there is one. -/
def finish (regenerator : Regenerator) (tool : Tool) (grammar visitor backup : Path) :
    Action Unit := do
  generate regenerator.settings tool grammar
  enter .regenerated
  if ← isThere backup then
    updateRun fun run => { run with backup := some backup }
    let summary ← regenerator.mergeFiles (.ofPath backup) (.ofPath visitor) none
    updateRun fun run => { run with summary := summary }
    enter (if summary.isNone then .skipped else .merged)
  else
    Action.report [.noBackup backup]

theorem steps_eq (regenerator : Regenerator) (tool : Tool) (grammar visitor backup : Path) :
    regenerator.steps tool grammar visitor backup = (do
      if ← isThere visitor then
        backUp visitor backup
        enter .backedUp
        regenerator.finish tool grammar visitor backup
      else
        Action.report [.noVisitor visitor]
        regenerator.finish tool grammar visitor backup) :=
  rfl

/-- The record of a run that has gone on to its merge. -/
def mergedRun (run : Run) (backup : Path) (summary : Option Summary) : Run :=
  { run with
    backup := some backup
    history := run.history ++ [.regenerated] ++ [if summary.isNone then .skipped else .merged]
    summary := summary }

/-- The last steps of a run take a disk and a record to others: the tool runs, and its visitor is
merged with the backup, if there is one. -/
def Finishes (regenerator : Regenerator) (tool : Tool) (grammar visitor backup : Path)
    (disk : Disk) (run : Run) (after : Disk) (last : Run) : Prop :=
  let edited := tool.edited grammar.parent.parts disk
  (∃ words, regenerator.settings.launchWords grammar = .ok words) ∧ tool.Succeeds ∧
  ∃ there, edited.exists? backup.toText = .ok there ∧
    if there = true then
      ∃ summary, regenerator.Merges backup visitor edited summary after ∧
        last = mergedRun run backup summary
    else after = edited ∧ last = { run with history := run.history ++ [.regenerated] }

variable {tool : Tool} {grammar visitor backup : Path} {run last : Run} {disk after : Disk}

/-- What follows the merge only changes the record. -/
theorem reaches_mergeFiles_bind {next : Option Summary → Action Unit} {latest : Option Run}
    (record : Option Summary → Run)
    (hnext : ∀ summary middle, middle.latest = world.latest →
      (Reaches (next summary) middle () after latest ↔
        latest = some (record summary) ∧ middle.disk = after)) :
    Reaches (regenerator.mergeFiles (.ofPath backup) (.ofPath visitor) none >>= next) world ()
        after latest ↔
      ∃ summary, regenerator.Merges backup visitor world.disk summary after ∧
        latest = some (record summary) := by
  unfold Reaches at hnext ⊢
  rw [returns_bind]
  constructor
  · intro h
    obtain ⟨summary, middle, hafter, hmerge⟩ := h.exists_eq
    have hreaches : Reaches (regenerator.mergeFiles (.ofPath backup) (.ofPath visitor) none) world
        summary middle.disk middle.latest := by
      refine hmerge.mono ?_
      rintro _ _ ⟨rfl, rfl⟩
      exact ⟨rfl, rfl, rfl⟩
    obtain ⟨hsame, hmerges⟩ := reaches_mergeFiles.1 hreaches
    obtain ⟨hlatest, rfl⟩ := (hnext summary middle hsame).1 hafter
    exact ⟨summary, hmerges, hlatest⟩
  · rintro ⟨summary, hmerges, hlatest⟩
    refine Returns.mono (reaches_mergeFiles.2 ⟨rfl, hmerges⟩) ?_
    rintro _ middle ⟨rfl, hsame, hdisk⟩
    exact (hnext _ middle hsame).2 ⟨hlatest, hdisk⟩

theorem stage_of_history {history : List Stage} {stage : Stage}
    (h : run.history = history ++ [stage]) : run.stage = .ok stage := by
  simp [Run.stage, Run.latest, h]

/-- After the tool has run. -/
theorem reaches_merge {current : Stage} (hrun : world.latest = some run)
    (hstage : run.stage = .ok current) :
    Reaches (do
        enter .regenerated
        if ← isThere backup then
          updateRun fun run => { run with backup := some backup }
          let summary ← regenerator.mergeFiles (.ofPath backup) (.ofPath visitor) none
          updateRun fun run => { run with summary := summary }
          enter (if summary.isNone then .skipped else .merged)
        else
          Action.report [.noBackup backup]) world () after (some last) ↔
      ∃ there, world.disk.exists? backup.toText = .ok there ∧
        if there = true then
          ∃ summary, regenerator.Merges backup visitor world.disk summary after ∧
            last = mergedRun run backup summary
        else after = world.disk ∧ last = { run with history := run.history ++ [.regenerated] } := by
  unfold Reaches
  rw [returns_bind, returns_enter hrun hstage, returns_bind, returns_isThere]
  refine exists_congr fun there => and_congr_right fun _ => ?_
  cases there with
  | false =>
    rw [if_neg (by simp), if_neg (by simp), Action.returns_report]
    constructor
    · rintro ⟨-, hlatest, hdisk⟩
      exact ⟨hdisk.symm, (Option.some.inj hlatest).symm⟩
    · rintro ⟨rfl, rfl⟩
      exact ⟨rfl, rfl, rfl⟩
  | true =>
    rw [if_pos rfl, if_pos rfl, returns_bind, returns_updateRun rfl]
    refine (reaches_mergeFiles_bind (mergedRun run backup) ?_).trans ?_
    · intro summary middle hmiddle
      unfold Reaches
      rw [returns_bind, returns_updateRun hmiddle, returns_enter rfl (stage_of_history rfl)]
      exact ⟨fun ⟨_, hlatest, hdisk⟩ => ⟨hlatest.symm, hdisk⟩,
        fun ⟨hlatest, hdisk⟩ => ⟨rfl, hlatest.symm, hdisk⟩⟩
    · simp only [Option.some.injEq]

theorem reaches_finish {current : Stage} (hrun : world.latest = some run)
    (hstage : run.stage = .ok current) :
    Reaches (regenerator.finish tool grammar visitor backup) world () after (some last) ↔
      regenerator.Finishes tool grammar visitor backup world.disk run after last := by
  unfold finish Finishes
  rw [Reaches, returns_bind, returns_generate, ← exists_and_right]
  refine exists_congr fun words => and_congr_right fun _ => and_congr_right fun _ => ?_
  exact reaches_merge hrun hstage

/-- The steps of a run take a disk to another and leave a record. -/
def Proceeds (regenerator : Regenerator) (tool : Tool) (grammar visitor backup : Path)
    (disk after : Disk) (last : Run) : Prop :=
  let start := Run.start grammar visitor
  ∃ there, disk.exists? visitor.toText = .ok there ∧
    if there = true then
      ∃ copied, disk.copyFile visitor backup = .ok copied ∧
        regenerator.Finishes tool grammar visitor backup copied
          { start with history := start.history ++ [.backedUp] } after last
    else regenerator.Finishes tool grammar visitor backup disk start after last

theorem reaches_steps (hrun : world.latest = some (Run.start grammar visitor)) :
    Reaches (regenerator.steps tool grammar visitor backup) world () after (some last) ↔
      regenerator.Proceeds tool grammar visitor backup world.disk after last := by
  have hstart : (Run.start grammar visitor).stage = .ok .idle := rfl
  rw [steps_eq, Reaches, Proceeds, returns_bind, returns_isThere]
  refine exists_congr fun there => and_congr_right fun _ => ?_
  cases there with
  | false =>
    rw [if_neg (by simp), if_neg (by simp), returns_bind, Action.returns_report]
    exact reaches_finish hrun hstart
  | true =>
    rw [if_pos rfl, if_pos rfl, returns_bind, returns_backUp]
    refine exists_congr fun copied => and_congr_right fun _ => ?_
    rw [returns_bind]
    refine Iff.trans (returns_enter hrun hstart) ?_
    exact reaches_finish rfl (stage_of_history rfl)

theorem Finishes.stage
    (h : regenerator.Finishes tool grammar visitor backup disk run after last) :
    ∃ current, last.stage = .ok current := by
  obtain ⟨-, -, there, -, h⟩ := h
  split at h
  · obtain ⟨summary, -, rfl⟩ := h
    exact ⟨_, stage_of_history rfl⟩
  · obtain ⟨-, rfl⟩ := h
    exact ⟨_, stage_of_history rfl⟩

theorem Proceeds.stage (h : regenerator.Proceeds tool grammar visitor backup disk after last) :
    ∃ current, last.stage = .ok current := by
  obtain ⟨there, -, h⟩ := h
  split at h
  · obtain ⟨copied, -, h⟩ := h
    exact h.stage
  · exact h.stage

/-- Steps that may fail, and the end of the run if they do not. -/
theorem reaches_done (hrun : world.latest = some (Run.start grammar visitor)) :
    Reaches (do
        tryCatch (regenerator.steps tool grammar visitor backup) fun e => do
          if e.category?.isSome then enter .failed
          throw e
        enter .done) world () after (some last) ↔
      ∃ run, regenerator.Proceeds tool grammar visitor backup world.disk after run ∧
        last = { run with history := run.history ++ [.done] } := by
  rw [Reaches, returns_bind, returns_tryCatch]
  · constructor
    · intro h
      obtain ⟨_, middle, hdone, hsteps⟩ := h.exists_eq
      rw [returns_enter_iff] at hdone
      cases hlatest : middle.latest with
      | none =>
        rw [hlatest] at hdone
        obtain ⟨-, hnone, -⟩ := hdone
        exact absurd hnone (by simp)
      | some run =>
        rw [hlatest] at hdone
        obtain ⟨current, -, -, hlast, rfl⟩ := hdone
        refine ⟨run, (reaches_steps hrun).1 (hsteps.mono ?_), (Option.some.inj hlast).symm⟩
        rintro _ _ ⟨rfl, rfl⟩
        exact ⟨rfl, hlatest, rfl⟩
    · rintro ⟨run, hproceeds, rfl⟩
      obtain ⟨current, hstage⟩ := hproceeds.stage
      refine Returns.mono ((reaches_steps hrun).2 hproceeds) ?_
      rintro _ middle ⟨-, hlatest, rfl⟩
      exact (returns_enter hlatest hstage).2 ⟨rfl, rfl, rfl⟩
  · -- a handler passes every error on
    intro e middle h
    split at h
    · obtain ⟨_, -, hthrow⟩ := returns_bind.1 h
      exact returns_throw hthrow
    · exact returns_throw h

/-- A run returns exactly if it finds its grammar, knows its paths and proceeds. -/
theorem reaches_run {argument : Option Text} :
    Reaches (regenerator.run tool argument) world () after (some last) ↔
      ∃ grammar, regenerator.settings.resolveGrammar world.disk argument = .ok grammar ∧
      ∃ visitor, regenerator.settings.visitorPath grammar = .ok visitor ∧
      ∃ backup, regenerator.settings.backupPath visitor = .ok backup ∧
      ∃ run, regenerator.Proceeds tool grammar visitor backup world.disk after run ∧
        last = { run with history := run.history ++ [.done] } := by
  unfold Regenerator.run
  dsimp only
  rw [Reaches, returns_bind, Action.returns_disk, returns_bind, Action.returns_ofExcept]
  refine exists_congr fun grammar => and_congr_right fun _ => ?_
  rw [returns_bind, Action.returns_ofExcept]
  refine exists_congr fun visitor => and_congr_right fun _ => ?_
  rw [returns_bind, Action.returns_ofExcept]
  refine exists_congr fun backup => and_congr_right fun _ => ?_
  rw [returns_bind, returns_modify]
  exact reaches_done rfl

end Regenerator
end StubGraft
