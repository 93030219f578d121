import StubGraft.Proofs.Repetition

/-!
# The course of a run

Everything that a run can do, said once: which of its steps ends it, and what it leaves on the disk,
among the calls of the tool and in its record.  A run can end in an error at every step, and all
that is said of failed runs follows from the cases here.

* `Action.WorksOnFiles` — steps that neither call the tool nor touch the record.
* `Regenerator.MergeFails` — what a merge leaves that fails.
* `Settings.runFiles` — the files of a run; a run that finds them makes a record.
* `Regenerator.Begins`, `Regenerator.Finishing`, `Regenerator.Course` — the steps before the tool is
  called, those after it, and the whole.
* `Regenerator.ends_run_course` — a run takes one of these courses.
-/

namespace StubGraft

open Disk Writer

/-! ## Steps that work on files -/

namespace Action

variable {α β : Type} {raised : Error → Prop}

/-- An action works on files only: it neither calls the tool nor changes the record of a run, and
the errors that it ends in have a property. -/
def WorksOnFiles (raised : Error → Prop) (action : Action α) : Prop :=
  ∀ world, Ends action world fun result after =>
    after.launches = world.launches ∧ after.latest = world.latest ∧
      ∀ e, result = .error e → raised e

theorem WorksOnFiles.mono {raised' : Error → Prop} {action : Action α}
    (h : WorksOnFiles raised action) (himp : ∀ e, raised e → raised' e) :
    WorksOnFiles raised' action :=
  fun world => (h world).mono fun _ _ ⟨hlaunches, hlatest, herror⟩ =>
    ⟨hlaunches, hlatest, fun e he => himp e (herror e he)⟩

theorem WorksOnFiles.bind {action : Action α} {next : α → Action β}
    (h : WorksOnFiles raised action) (hnext : ∀ a, WorksOnFiles raised (next a)) :
    WorksOnFiles raised (action >>= next) := by
  intro world
  refine (h world).bind ?_ ?_
  · rintro a middle ⟨hlaunches, hlatest, -⟩
    refine (hnext a middle).mono ?_
    rintro result after ⟨hlaunches', hlatest', herror⟩
    exact ⟨hlaunches'.trans hlaunches, hlatest'.trans hlatest, herror⟩
  · rintro e after ⟨hlaunches, hlatest, herror⟩
    refine ⟨hlaunches, hlatest, fun e' he' => herror e' ?_⟩
    exact congrArg Except.error (Except.error.inj he')

theorem worksOnFiles_ofExcept {result : Except Error α} (h : ∀ e, result = .error e → raised e) :
    WorksOnFiles raised (ofExcept result) :=
  fun _ => ends_ofExcept.2 ⟨rfl, rfl, h⟩

theorem worksOnFiles_pure (a : α) : WorksOnFiles raised (pure a : Action α) :=
  fun _ => ends_pure.2 ⟨rfl, rfl, by simp⟩

theorem worksOnFiles_throw {e : Error} (h : raised e) : WorksOnFiles raised (throw e : Action α) :=
  fun _ => ⟨rfl, rfl, fun _ he => Except.error.inj he ▸ h⟩

theorem worksOnFiles_report (events : List Event) : WorksOnFiles raised (report events) :=
  fun _ => ends_report.2 ⟨rfl, rfl, by simp⟩

theorem worksOnFiles_disk : WorksOnFiles raised Action.disk :=
  fun _ => ends_disk.2 ⟨rfl, rfl, by simp⟩

theorem worksOnFiles_onDisk (operations : DiskAction α) :
    WorksOnFiles raised (onDisk operations) := by
  intro world
  rw [ends_onDisk]
  exact ⟨rfl, rfl, by simp⟩

theorem worksOnFiles_onDiskOr {refused : SystemError → Error} {operations : DiskAction α}
    (hnull : raised .nullCharacter) (h : ∀ e, raised (refused e)) :
    WorksOnFiles raised (onDiskOr refused operations) := by
  unfold onDiskOr
  refine (worksOnFiles_onDisk operations).bind ?_
  rintro ((_ | e) | a)
  · exact worksOnFiles_throw hnull
  · exact worksOnFiles_throw (h e)
  · exact worksOnFiles_pure a

end Action

/-! ## Errors of reading and writing -/

/-- If an error is reported, then in one of the given categories. -/
def Error.Among (categories : List Category) (e : Error) : Prop :=
  ∀ category, e.category? = some category → category ∈ categories

theorem Error.Among.mono {some more : List Category} {e : Error} (h : e.Among some)
    (hsub : ∀ category ∈ some, category ∈ more) : e.Among more :=
  fun category hcategory => hsub category (h category hcategory)

theorem Error.among_of_category? {category : Category} {e : Error}
    (h : e.category? = some category) : e.Among [category] := by
  intro other hother
  rw [h] at hother
  exact List.mem_singleton.2 (Option.some.inj hother).symm

theorem Error.among_of_escapes {categories : List Category} {e : Error} (h : e.category? = none) :
    e.Among categories := by
  intro category hcategory
  rw [h] at hcategory
  exact absurd hcategory (by simp)

theorem Profile.worksOnFiles_readModel (profile : Profile) (source : Source) :
    Action.WorksOnFiles (Error.Among [.parse]) (profile.readModel source) := by
  unfold Profile.readModel
  refine Action.worksOnFiles_disk.bind fun disk => ?_
  rcases disk.readBytes source.path.toText with (_ | e) | bytes
  · exact Action.worksOnFiles_throw (Error.among_of_escapes rfl)
  · exact Action.worksOnFiles_throw (Error.among_of_category? rfl)
  · dsimp only
    cases Text.decodeUtf8 bytes with
    | error e => exact Action.worksOnFiles_throw (Error.among_of_category? rfl)
    | ok text => exact (Action.worksOnFiles_report _).bind fun _ => Action.worksOnFiles_pure _

namespace Writer

theorem worksOnFiles_writeDirect (path : Path) (bytes : List UInt8) :
    Action.WorksOnFiles (Error.Among [.write]) (writeDirect path bytes) :=
  Action.worksOnFiles_onDiskOr (Error.among_of_escapes rfl) fun _ => Error.among_of_category? rfl

theorem worksOnFiles_writeAtomic (path : Path) (bytes : List UInt8) :
    Action.WorksOnFiles (Error.Among [.write]) (writeAtomic path bytes) := by
  unfold writeAtomic
  refine (Action.worksOnFiles_onDiskOr (Error.among_of_escapes rfl)
    fun _ => Error.among_of_category? rfl).bind fun temporary => ?_
  refine (Action.worksOnFiles_onDisk _).bind ?_
  rintro ((_ | e) | _)
  · exact Action.worksOnFiles_throw (Error.among_of_escapes rfl)
  · exact (Action.worksOnFiles_onDisk _).bind fun _ =>
      Action.worksOnFiles_throw (Error.among_of_category? rfl)
  · exact Action.worksOnFiles_pure _

theorem worksOnFiles_write (writer : Writer) (path : Path) (content : Text) (validate : Bool)
    (hcheck : ∀ e, writer.check content.points = .error e → e.Among [.write]) :
    Action.WorksOnFiles (Error.Among [.write]) (writer.write path content.points validate) := by
  rw [write_points]
  refine (Action.worksOnFiles_ofExcept ?_).bind fun _ => ?_
  · intro e he
    split at he
    · exact hcheck e he
    · cases he
  · refine (Action.worksOnFiles_onDiskOr (Error.among_of_escapes rfl)
      fun _ => Error.among_of_category? rfl).bind fun _ => ?_
    split
    · exact worksOnFiles_writeAtomic path _
    · exact worksOnFiles_writeDirect path _

end Writer

theorem among_of_checkBalanced {content : Text} {e : Error}
    (h : checkBalanced content = .error e) : e.Among [.write] := by
  unfold checkBalanced at h
  split at h
  · cases h
  · cases h
    exact Error.among_of_category? rfl

theorem Regenerator.worksOnFiles_mergeFiles (regenerator : Regenerator) (old new : Source)
    (output : Option Path) :
    Action.WorksOnFiles (Error.Among [.parse, .write])
      (regenerator.mergeFiles old new output) := by
  have hread : ∀ source, Action.WorksOnFiles (Error.Among [.parse, .write])
      (regenerator.profile.readModel source) := fun source =>
    (Profile.worksOnFiles_readModel _ source).mono fun e he => he.mono (by simp)
  have hwrite : ∀ path (content : Text) validate,
      Action.WorksOnFiles (Error.Among [.parse, .write])
        (regenerator.writer.write path content.points validate) := fun path content validate =>
    (Writer.worksOnFiles_write _ path content validate fun _ => among_of_checkBalanced).mono
      fun e he => he.mono (by simp)
  unfold mergeFiles
  refine (hread old).bind fun oldModel => (hread new).bind fun newModel => ?_
  split
  · refine (Action.worksOnFiles_report _).bind fun _ => ?_
    split
    · exact (hwrite _ _ _).bind fun _ => Action.worksOnFiles_pure _
    · exact Action.worksOnFiles_pure _
  · refine (Action.worksOnFiles_report _).bind fun _ => (Action.worksOnFiles_report _).bind fun _ =>
      (Action.worksOnFiles_ofExcept ?_).bind fun content => (hwrite _ content _).bind fun _ =>
        (Action.worksOnFiles_report _).bind fun _ => Action.worksOnFiles_pure _
    -- what cannot be rendered is no reported error
    intro e he
    obtain ⟨problem, -, rfl⟩ := mapError_eq_error_iff.1 he
    exact Error.among_of_escapes (by cases problem <;> rfl)

/-! ## Merges that fail -/

namespace Disk

/-- Two disks hold the same entries, with one working directory. -/
structure SameEntries (a b : Disk) : Prop where
  /-- The working directory is the same. -/
  workdir : b.workdir = a.workdir
  /-- The entries are the same. -/
  entry : ∀ l, b.get? l = a.get? l

theorem SameEntries.refl (disk : Disk) : SameEntries disk disk := ⟨rfl, fun _ => rfl⟩

end Disk

/-- Below a folder that is there, a write that fails loses no entry; and if its error is reported,
it adds none either. -/
theorem Writer.ends_write_below (writer : Writer) {world : World} {path : Path} (content : Text)
    (validate : Bool) (hfolder : world.disk.entryAt path.parent.toText = .ok .directory) :
    Ends (writer.write path content.points validate) world fun result after =>
      ∀ e, result = .error e → KeepsEntries world.disk after.disk ∧
        (e.category?.isSome → SameEntries world.disk after.disk) := by
  have hends : ∀ result after,
      WriteEnds world.disk path.toText content.encodeUtf8 result after →
      ∀ e, result = .error e → KeepsEntries world.disk after ∧
        (e.category?.isSome → SameEntries world.disk after) := by
    rintro _ after hwrite e rfl
    obtain ⟨hkeeps, hsame⟩ := hwrite
    refine ⟨hkeeps, fun hreported => ?_⟩
    obtain ⟨hworkdir, hentry⟩ := hsame (by rintro rfl; simp [Error.category?] at hreported)
    exact ⟨hworkdir, hentry⟩
  rw [write_points, ends_bind, Action.ends_ofExcept]
  split
  · -- the folder is not made again, so that only the file is written
    unfold store
    rw [ends_bind, Action.ends_onDiskOr]
    refine (DiskAction.ends_makeDirectories_of_directory hfolder).mono ?_
    rintro _ _ ⟨rfl, rfl⟩
    dsimp only [Except.mapError]
    split
    · exact (ends_writeAtomic _ path _).mono fun result after => hends result after.disk
    · exact (ends_writeDirect _ path _).mono fun result after => hends result after.disk
  · exact fun _ _ => ⟨(Grows.refl _).keepsEntries, fun _ => .refl _⟩

/-- A merge that fails takes a disk to another. -/
structure Regenerator.MergeFails (disk : Disk) (e : Error) (after : Disk) : Prop where
  /-- If the error is reported, then as one of reading or writing. -/
  among : e.Among [.parse, .write]
  /-- No entry is lost. -/
  keeps : KeepsEntries disk after
  /-- If the error is reported, no entry is new. -/
  same : e.category?.isSome → SameEntries disk after

namespace Regenerator

variable {regenerator : Regenerator} {world : World}

/-- What a merge that fails leaves, if the new file stands in a folder wherever it can be read. -/
theorem ends_mergeFiles_error {old new : Path}
    (hfolder : ∀ l, world.disk.locate new.toText = .ok l →
      world.disk.entryAt new.parent.toText = .ok .directory) :
    Ends (regenerator.mergeFiles (.ofPath old) (.ofPath new) none) world fun result after =>
      ∀ e, result = .error e → KeepsEntries world.disk after.disk ∧
        (e.category?.isSome → SameEntries world.disk after.disk) := by
  have hsame : ∀ {after : Disk} {e : Error}, after = world.disk →
      KeepsEntries world.disk after ∧ (e.category?.isSome → SameEntries world.disk after) :=
    fun h => ⟨h ▸ (Grows.refl _).keepsEntries, fun _ => h ▸ .refl _⟩
  unfold mergeFiles
  refine (Profile.ends_readModel regenerator.profile (.ofPath old) world).bind ?_
    fun _ _ h _ _ => hsame h.1
  rintro oldModel middle ⟨hmiddle, -⟩
  refine (Profile.ends_readModel regenerator.profile (.ofPath new) middle).bind ?_
    fun _ _ h _ _ => hsame (h.1.trans hmiddle)
  rintro newModel last ⟨hlast, text, htext, -⟩
  rw [hmiddle] at hlast htext
  obtain ⟨l, _, hfile, -⟩ := exists_holdsAt_of_textAt? htext
  dsimp only [Option.getD]
  split
  · rw [ends_bind, Action.ends_report]
    dsimp only
    rw [if_neg fun h => h rfl, ends_pure]
    simp
  · rw [ends_bind, Action.ends_report]
    dsimp only
    rw [ends_bind, Action.ends_report]
    dsimp only
    rw [ends_bind, Action.ends_ofExcept]
    split
    · refine (ends_write_below regenerator.writer _ _ ?_).bind ?_ ?_
      · exact hlast ▸ hfolder l hfile.locate
      · intro _ after _
        rw [ends_bind, Action.ends_report]
        exact ends_pure.2 (by simp)
      · intro e after hfails e' he'
        exact hlast ▸ hfails e' (congrArg Except.error (Except.error.inj he'))
    · exact fun _ _ => hsame hlast

/-- How a merge ends, if the new file stands in a folder wherever it can be read. -/
theorem ends_mergeFiles_cases {old new : Path}
    (hfolder : ∀ l, world.disk.locate new.toText = .ok l →
      world.disk.entryAt new.parent.toText = .ok .directory) :
    Ends (regenerator.mergeFiles (.ofPath old) (.ofPath new) none) world fun result after =>
      after.launches = world.launches ∧ after.latest = world.latest ∧
      match result with
      | .ok summary => regenerator.Merges old new world.disk summary after.disk
      | .error e => MergeFails world.disk e after.disk := by
  obtain ⟨hlaunches, hlatest, hamong⟩ :=
    worksOnFiles_mergeFiles regenerator (.ofPath old) (.ofPath new) none world
  have hcases : Ends (regenerator.mergeFiles (.ofPath old) (.ofPath new) none) world
      fun result after =>
        match result with
        | .ok summary => regenerator.Merges old new world.disk summary after.disk
        | .error e => MergeFails world.disk e after.disk := by
    refine Ends.of_returns ?_ ?_
    · intro summary after hreturns
      have hreaches : Reaches (regenerator.mergeFiles (.ofPath old) (.ofPath new) none) world
          summary after.disk after.latest := by
        refine hreturns.mono ?_
        rintro _ _ ⟨rfl, rfl⟩
        exact ⟨rfl, rfl, rfl⟩
      exact (reaches_mergeFiles.1 hreaches).2
    · intro e he
      obtain ⟨hkeeps, hsame⟩ := ends_mergeFiles_error hfolder e he
      exact ⟨hamong e he, hkeeps, hsame⟩
  exact ⟨hlaunches, hlatest, hcases⟩

end Regenerator

/-! ## The files and the record of a run -/

/-- The files that a run works on. -/
structure RunFiles where
  /-- The grammar. -/
  grammar : Path
  /-- The visitor. -/
  visitor : Path
  /-- The backup of the visitor. -/
  backup : Path
  deriving DecidableEq, Repr

/-- The record of a run on these files that has done nothing yet. -/
def RunFiles.start (files : RunFiles) : Run := Run.start files.grammar files.visitor

/-- The directory that the tool runs in. -/
def RunFiles.folder (files : RunFiles) : Location := files.grammar.parent.parts

/-- The files of a run on an argument, if it has got so far. -/
def Settings.runFiles (settings : Settings) (disk : Disk) (argument : Option Text) :
    Except Error RunFiles := do
  let grammar ← settings.resolveGrammar disk argument
  let visitor ← settings.visitorPath grammar
  let backup ← settings.backupPath visitor
  return ⟨grammar, visitor, backup⟩

theorem Settings.runFiles_eq_ok_iff {settings : Settings} {disk : Disk} {argument : Option Text}
    {files : RunFiles} :
    settings.runFiles disk argument = .ok files ↔
      settings.resolveGrammar disk argument = .ok files.grammar ∧
      settings.visitorPath files.grammar = .ok files.visitor ∧
      settings.backupPath files.visitor = .ok files.backup := by
  simp only [runFiles, bind_eq_ok_iff]
  constructor
  · rintro ⟨grammar, hgrammar, visitor, hvisitor, backup, hbackup, h⟩
    obtain rfl := Except.ok.inj h
    exact ⟨hgrammar, hvisitor, hbackup⟩
  · rintro ⟨hgrammar, hvisitor, hbackup⟩
    exact ⟨_, hgrammar, _, hvisitor, _, hbackup, rfl⟩

namespace Run

/-- A record that has gone through more stages. -/
def through (run : Run) (stages : List Stage) : Run := { run with history := run.history ++ stages }

theorem through_nil (run : Run) : run.through [] = run := by
  rw [through, List.append_nil]

/-- The stages that follow when the steps of a run have ended: none, if an error has escaped that is
not reported. -/
def closing : Except Error Unit → List Stage
  | .ok _ => [.done]
  | .error e => if e.category?.isSome then [.failed] else []

end Run

namespace Regenerator

/-- Steps, and the end of the record when they have ended. -/
def conclude (action : Action Unit) : Action Unit := do
  tryCatch action fun e => do
    if e.category?.isSome then enter .failed
    throw e
  enter .done

variable {regenerator : Regenerator} {tool : Tool} {world : World}

/-- A run finds its files or ends in an error; then it makes a record and goes on. -/
theorem ends_run_iff {argument : Option Text} {post : Except Error Unit → World → Prop} :
    Ends (regenerator.run tool argument) world post ↔
      match regenerator.settings.runFiles world.disk argument with
      | .error e => post (.error e) world
      | .ok files =>
        Ends (conclude (regenerator.steps tool files.grammar files.visitor files.backup))
          { world with latest := some files.start } post := by
  unfold run
  dsimp only
  rw [ends_bind, Action.ends_disk]
  dsimp only
  rw [ends_bind, Action.ends_ofExcept]
  cases hgrammar : regenerator.settings.resolveGrammar world.disk argument with
  | error e => simp [Settings.runFiles, bind, Except.bind, hgrammar]
  | ok grammar =>
    dsimp only
    rw [ends_bind, Action.ends_ofExcept]
    cases hvisitor : regenerator.settings.visitorPath grammar with
    | error e => simp [Settings.runFiles, bind, Except.bind, hgrammar, hvisitor]
    | ok visitor =>
      dsimp only
      rw [ends_bind, Action.ends_ofExcept]
      cases hbackup : regenerator.settings.backupPath visitor with
      | error e => simp [Settings.runFiles, bind, Except.bind, hgrammar, hvisitor, hbackup]
      | ok backup =>
        have hfiles : regenerator.settings.runFiles world.disk argument =
            .ok ⟨grammar, visitor, backup⟩ :=
          Settings.runFiles_eq_ok_iff.2 ⟨hgrammar, hvisitor, hbackup⟩
        rw [hfiles]
        exact Iff.rfl

/-! ## Single steps -/

/-- A run whose stage is known enters the next one. -/
theorem ends_enter_of_stage {run : Run} {current next : Stage}
    {post : Except Error Unit → World → Prop} (hrun : world.latest = some run)
    (hstage : run.stage = .ok current)
    (hpost : post (.ok ()) { world with
      log := world.log ++ [.entered run.visitor.name current next]
      latest := some (run.through [next]) }) :
    Ends (enter next) world post := by
  have hreturns : Returns (enter next) world fun _ after => post (.ok ()) after :=
    (returns_enter hrun hstage).2 hpost
  refine Ends.mono hreturns ?_
  rintro _ after ⟨_, rfl, h⟩
  exact h

theorem ends_updateRun_iff {run : Run} {change : Run → Run}
    {post : Except Error Unit → World → Prop} (hrun : world.latest = some run) :
    Ends (updateRun change) world post ↔
      post (.ok ()) { world with latest := some (change run) } := by
  unfold updateRun
  rw [ends_modify, hrun]
  rfl

theorem ends_isThere_iff {path : Path} {post : Except Error Bool → World → Prop} :
    Ends (isThere path) world post ↔
      post ((world.disk.exists? path.toText).mapError .system) world := by
  unfold isThere
  rw [ends_bind, Action.ends_disk]
  dsimp only
  rw [Action.ends_ofExcept]

/-- How a copy that is refused is reported. -/
def copyError (files : RunFiles) : CopyFault → Error
  | .sameFile a b => .sameBackup a b
  | .disk .nullCharacter => .nullCharacter
  | .disk (.system e) => .backupRefused files.visitor files.backup e

theorem ends_backUp_cases (files : RunFiles) :
    Ends (backUp files.visitor files.backup) world fun result after =>
      after.launches = world.launches ∧ after.latest = world.latest ∧
      match world.disk.copyFile files.visitor files.backup with
      | .ok copied => result = .ok () ∧ after.disk = copied
      | .error fault => result = .error (copyError files fault) ∧ after.disk = world.disk := by
  unfold backUp
  rw [ends_bind, Action.ends_disk]
  dsimp only
  cases world.disk.copyFile files.visitor files.backup with
  | ok copied => exact ⟨rfl, rfl, rfl, rfl⟩
  | error fault => rcases fault with _ | (_ | _) <;> exact ⟨rfl, rfl, rfl, rfl⟩

end Regenerator

namespace Regenerator

variable {regenerator : Regenerator} {tool : Tool} {world : World}

/-! ## Courses -/

/-- The visitor is copied, or there is none: the disk and the record before the tool is called. -/
inductive Begins (files : RunFiles) (disk : Disk) : Disk → Run → Prop where
  /-- There is no visitor. -/
  | absent (hthere : disk.exists? files.visitor.toText = .ok false) :
    Begins files disk disk files.start
  /-- The visitor is copied. -/
  | copied {copied : Disk} (hthere : disk.exists? files.visitor.toText = .ok true)
    (hcopy : disk.copyFile files.visitor files.backup = .ok copied) :
    Begins files disk copied (files.start.through [.backedUp])

/-- What follows a call of the tool that has succeeded: how the steps end, and the disk and the
record then. -/
inductive Finishing (regenerator : Regenerator) (files : RunFiles) (disk : Disk) (run : Run) :
    Except Error Unit → Disk → Run → Prop where
  /-- Whether there is a backup cannot be told. -/
  | unseen {e : SystemError} (hthere : disk.exists? files.backup.toText = .error e) :
    Finishing regenerator files disk run (.error (.system e)) disk (run.through [.regenerated])
  /-- There is no backup. -/
  | alone (hthere : disk.exists? files.backup.toText = .ok false) :
    Finishing regenerator files disk run (.ok ()) disk (run.through [.regenerated])
  /-- The merge fails. -/
  | unmerged {e : Error} {after : Disk} (hthere : disk.exists? files.backup.toText = .ok true)
    (hmerge : MergeFails disk e after) :
    Finishing regenerator files disk run (.error e) after
      { run.through [.regenerated] with backup := some files.backup }
  /-- The backup is merged into the visitor. -/
  | merged {summary : Option Summary} {after : Disk}
    (hthere : disk.exists? files.backup.toText = .ok true)
    (hmerge : regenerator.Merges files.backup files.visitor disk summary after) :
    Finishing regenerator files disk run (.ok ()) after (mergedRun run files.backup summary)

/-- The courses that the steps of a run can take: how they end, and the disk, the calls of the tool
and the record then. -/
inductive Course (regenerator : Regenerator) (tool : Tool) (files : RunFiles) (disk : Disk) :
    Except Error Unit → Disk → List Launch → Run → Prop where
  /-- Whether there is a visitor cannot be told. -/
  | unseen {e : SystemError} (hthere : disk.exists? files.visitor.toText = .error e) :
    Course regenerator tool files disk (.error (.system e)) disk [] files.start
  /-- The visitor cannot be copied. -/
  | uncopied {fault : CopyFault} (hthere : disk.exists? files.visitor.toText = .ok true)
    (hcopy : disk.copyFile files.visitor files.backup = .error fault) :
    Course regenerator tool files disk (.error (copyError files fault)) disk [] files.start
  /-- The settings give no words to call the tool with. -/
  | uncalled {begun : Disk} {run : Run} {e : Error} (hbegins : Begins files disk begun run)
    (hwords : regenerator.settings.launchWords files.grammar = .error e) :
    Course regenerator tool files disk (.error e) begun [] run
  /-- The tool fails. -/
  | failed {begun : Disk} {run : Run} {words : List Text} {e : Error}
    (hbegins : Begins files disk begun run)
    (hwords : regenerator.settings.launchWords files.grammar = .ok words)
    (htool : tool.ending = .error e) :
    Course regenerator tool files disk (.error e) (tool.edited files.folder begun)
      [⟨words, files.grammar.parent⟩] run
  /-- The tool succeeds. -/
  | generated {begun after : Disk} {run last : Run} {words : List Text}
    {result : Except Error Unit} (hbegins : Begins files disk begun run)
    (hwords : regenerator.settings.launchWords files.grammar = .ok words) (htool : tool.Succeeds)
    (hfinish : Finishing regenerator files (tool.edited files.folder begun) run result after last) :
    Course regenerator tool files disk result after [⟨words, files.grammar.parent⟩] last

variable {files : RunFiles}

/-- What follows the tool takes one of its courses. -/
theorem ends_merge_cases {run : Run} {current : Stage} (hrun : world.latest = some run)
    (hstage : run.stage = .ok current)
    (hfolder : ∀ l, world.disk.locate files.visitor.toText = .ok l →
      world.disk.entryAt files.visitor.parent.toText = .ok .directory) :
    Ends (do
        enter .regenerated
        if ← isThere files.backup then
          updateRun fun run => { run with backup := some files.backup }
          let summary ← regenerator.mergeFiles (.ofPath files.backup) (.ofPath files.visitor) none
          updateRun fun run => { run with summary := summary }
          enter (if summary.isNone then .skipped else .merged)
        else
          Action.report [.noBackup files.backup]) world fun result after =>
      after.launches = world.launches ∧ ∃ last, after.latest = some last ∧
        Finishing regenerator files world.disk run result after.disk last := by
  rw [ends_bind]
  refine ends_enter_of_stage hrun hstage ?_
  dsimp only
  rw [ends_bind, ends_isThere_iff]
  dsimp only
  rcases hthere : world.disk.exists? files.backup.toText with e | (_ | _)
  · exact ⟨rfl, _, rfl, .unseen hthere⟩
  · exact ⟨rfl, _, rfl, .alone hthere⟩
  · dsimp only [Except.mapError]
    rw [if_pos rfl, ends_bind, ends_updateRun_iff rfl]
    dsimp only
    refine (ends_mergeFiles_cases ?_).bind ?_ ?_
    · exact hfolder
    · rintro summary merged ⟨hlaunches, hlatest, hmerge⟩
      rw [ends_bind, ends_updateRun_iff hlatest]
      refine ends_enter_of_stage rfl (stage_of_history rfl) ?_
      exact ⟨hlaunches, _, rfl, .merged hthere hmerge⟩
    · rintro e after ⟨hlaunches, hlatest, hmerge⟩
      exact ⟨hlaunches, _, hlatest, .unmerged hthere hmerge⟩

/-! ## Whole runs -/

/-- The folder of a visitor that leads somewhere is there. -/
theorem entryAt_parent_of_runFiles {settings : Settings} {start disk : Disk}
    {argument : Option Text} {l : Location} (hfiles : settings.runFiles start argument = .ok files)
    (h : disk.locate files.visitor.toText = .ok l) :
    disk.entryAt files.visitor.parent.toText = .ok .directory := by
  obtain ⟨hgrammar, hvisitor, -⟩ := Settings.runFiles_eq_ok_iff.1 hfiles
  exact entryAt_parent_visitor hvisitor (anchor_of_resolveGrammar hgrammar) h

theorem Begins.copies {disk begun : Disk} {run : Run} (h : Begins files disk begun run) :
    Copies files.visitor files.backup disk begun := by
  cases h with
  | absent hthere => exact Or.inr ⟨hthere, rfl⟩
  | copied hthere hcopy => exact Or.inl ⟨hthere, hcopy⟩

theorem Begins.stage {disk begun : Disk} {run : Run} (h : Begins files disk begun run) :
    ∃ current, run.stage = .ok current := by
  cases h with
  | absent => exact ⟨.idle, rfl⟩
  | copied => exact ⟨.backedUp, rfl⟩

theorem Finishing.stage {disk after : Disk} {run last : Run} {result : Except Error Unit}
    (h : Finishing regenerator files disk run result after last) :
    ∃ current, last.stage = .ok current := by
  cases h <;> exact ⟨_, stage_of_history rfl⟩

theorem Course.stage {disk after : Disk} {calls : List Launch} {run : Run}
    {result : Except Error Unit} (h : Course regenerator tool files disk result after calls run) :
    ∃ current, run.stage = .ok current := by
  cases h with
  | unseen | uncopied => exact ⟨.idle, rfl⟩
  | uncalled hbegins | failed hbegins => exact hbegins.stage
  | generated _ _ _ hfinish => exact hfinish.stage

/-- From a world on, the steps of a run have taken one of their courses. -/
def TakesCourse (regenerator : Regenerator) (tool : Tool) (files : RunFiles) (disk : Disk)
    (launches : List Launch) (result : Except Error Unit) (after : World) : Prop :=
  ∃ calls run, after.launches = launches ++ calls ∧ after.latest = some run ∧
    Course regenerator tool files disk result after.disk calls run

theorem ends_finish_course {disk : Disk} {run : Run} (hrun : world.latest = some run)
    (hbegins : Begins files disk world.disk run)
    (hfolder : ∀ (disk : Disk) l, disk.locate files.visitor.toText = .ok l →
      disk.entryAt files.visitor.parent.toText = .ok .directory) :
    Ends (regenerator.finish tool files.grammar files.visitor files.backup) world
      (TakesCourse regenerator tool files disk world.launches) := by
  obtain ⟨current, hstage⟩ := hbegins.stage
  unfold finish
  refine (ends_generate_cases regenerator.settings tool files.grammar).bind ?_ ?_
  · rintro _ edited ⟨hlatest, hcases⟩
    split at hcases
    · exact absurd hcases.1 (by simp)
    · rename_i words hwords
      obtain ⟨hdisk, hlaunches, htool⟩ := hcases
      refine (ends_merge_cases (hlatest.trans hrun) hstage (hfolder edited.disk)).mono ?_
      rintro result after ⟨hsame, last, hlast, hfinish⟩
      rw [hdisk] at hfinish
      exact ⟨_, last, hsame.trans hlaunches, hlast,
        .generated hbegins hwords (Tool.ending_eq_ok_iff.1 htool.symm) hfinish⟩
  · rintro e after ⟨hlatest, hcases⟩
    split at hcases
    · rename_i e' hwords
      obtain ⟨he, hdisk, hlaunches⟩ := hcases
      obtain rfl := Except.error.inj he
      exact ⟨[], run, by simp [hlaunches], hlatest.trans hrun, hdisk ▸ .uncalled hbegins hwords⟩
    · rename_i words hwords
      obtain ⟨hdisk, hlaunches, htool⟩ := hcases
      exact ⟨_, run, hlaunches, hlatest.trans hrun, hdisk ▸ .failed hbegins hwords htool.symm⟩

theorem ends_steps_course (hrun : world.latest = some files.start)
    (hfolder : ∀ (disk : Disk) l, disk.locate files.visitor.toText = .ok l →
      disk.entryAt files.visitor.parent.toText = .ok .directory) :
    Ends (regenerator.steps tool files.grammar files.visitor files.backup) world
      (TakesCourse regenerator tool files world.disk world.launches) := by
  rw [steps_eq, ends_bind, ends_isThere_iff]
  rcases hthere : world.disk.exists? files.visitor.toText with e | (_ | _)
  · exact ⟨[], _, by simp, hrun, .unseen hthere⟩
  · dsimp only [Except.mapError]
    rw [if_neg (by simp), ends_bind, Action.ends_report]
    refine ends_finish_course hrun ?_ hfolder
    exact .absent hthere
  · dsimp only [Except.mapError]
    rw [if_pos rfl]
    refine (ends_backUp_cases files).bind ?_ ?_
    · rintro _ copied ⟨hlaunches, hlatest, hcases⟩
      split at hcases
      · rename_i hcopy
        obtain ⟨-, hdisk⟩ := hcases
        rw [ends_bind]
        refine ends_enter_of_stage (hlatest.trans hrun) rfl ?_
        rw [← hlaunches]
        refine ends_finish_course rfl ?_ hfolder
        exact .copied hthere (hdisk ▸ hcopy)
      · exact absurd hcases.1 (by simp)
    · rintro e after ⟨hlaunches, hlatest, hcases⟩
      split at hcases
      · exact absurd hcases.1 (by simp)
      · rename_i fault hcopy
        obtain ⟨he, hdisk⟩ := hcases
        obtain rfl := Except.error.inj he
        refine ⟨[], _, by simp [hlaunches], hlatest.trans hrun, ?_⟩
        rw [hdisk]
        exact .uncopied hthere hcopy

/-- A run that does not find its files leaves everything as it is; else it takes one of the courses,
and its record is concluded. -/
theorem ends_run_course (argument : Option Text) :
    Ends (regenerator.run tool argument) world fun result after =>
      match regenerator.settings.runFiles world.disk argument with
      | .error e => result = .error e ∧ after = world
      | .ok files => ∃ calls run, after.launches = world.launches ++ calls ∧
          after.latest = some (run.through (Run.closing result)) ∧
          Course regenerator tool files world.disk result after.disk calls run := by
  rw [ends_run_iff]
  cases hfiles : regenerator.settings.runFiles world.disk argument with
  | error e => exact ⟨rfl, rfl⟩
  | ok files =>
    dsimp only
    unfold conclude
    rw [ends_bind, ends_tryCatch]
    refine (ends_steps_course rfl fun disk l => entryAt_parent_of_runFiles hfiles).mono ?_
    rintro (e | _) after ⟨calls, run, hlaunches, hlatest, hcourse⟩
    · dsimp only
      split
      · rename_i hreported
        obtain ⟨current, hstage⟩ := hcourse.stage
        rw [ends_bind]
        refine ends_enter_of_stage hlatest hstage ⟨calls, run, hlaunches, ?_, hcourse⟩
        rw [Run.closing, if_pos hreported]
        rfl
      · -- an error that escapes leaves the record where it is
        rename_i hescapes
        refine ⟨calls, run, hlaunches, ?_, hcourse⟩
        rw [Run.closing, if_neg hescapes, Run.through_nil]
        exact hlatest
    · obtain ⟨current, hstage⟩ := hcourse.stage
      exact ends_enter_of_stage hlatest hstage ⟨calls, run, hlaunches, rfl, hcourse⟩

end Regenerator

/-! ## Calls -/

namespace Call

variable {call : Call} {regenerator : Regenerator} {world : World}

theorem eq_of_runFiles_error {e : Error}
    (h : regenerator.settings.runFiles world.disk call.argument = .error e) :
    call.result regenerator world = .error e ∧ call.after regenerator world = world := by
  have hrun := @Regenerator.ends_run_course regenerator call.tool world call.argument
  rw [h] at hrun
  exact hrun

theorem course_of_runFiles {files : RunFiles}
    (h : regenerator.settings.runFiles world.disk call.argument = .ok files) :
    ∃ calls run, (call.after regenerator world).launches = world.launches ++ calls ∧
      (call.after regenerator world).latest =
        some (run.through (Run.closing (call.result regenerator world))) ∧
      Regenerator.Course regenerator call.tool files world.disk (call.result regenerator world)
        (call.after regenerator world).disk calls run := by
  have hrun := @Regenerator.ends_run_course regenerator call.tool world call.argument
  rw [h] at hrun
  exact hrun

end Call
end StubGraft
