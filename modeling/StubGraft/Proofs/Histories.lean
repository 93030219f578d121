import StubGraft.Proofs.Courses

/-!
# The history of a run

A run enters its stages in a fixed order, and how far it has come tells what it has done.  This
holds however it ends: its record is made once its files are known, and every step that can fail
leaves the record, the calls of the tool and the disk in agreement.  A tool that ends well but
prints what is no UTF-8 has regenerated the visitor without the run knowing it: reading what was
printed fails with an error that is not reported.

* `Stage.histories` — the histories that there are.
* `Regenerator.Agrees`, `Regenerator.Recorded` — what the record of a run says.
* `Regenerator.run_recorded` — the record of every run says so.
* `Regenerator.run_unread_default` — a tool that ends well, and no record of it.
-/

namespace StubGraft

open Disk

/-- The histories of runs.  The visitor may be copied first; then the run stops, fails or has the
tool regenerate the visitor, and after that it stops, fails or is done, perhaps with a merge. -/
def Stage.histories : List (List Stage) :=
  [[], [.backedUp]].flatMap fun copy =>
    [[], [.failed], [.regenerated], [.regenerated, .failed], [.regenerated, .done],
      [.regenerated, .skipped, .done], [.regenerated, .merged, .done]].map fun rest =>
        .idle :: (copy ++ rest)

/-- The stages that a run enters from the call of the tool on until its steps have ended. -/
def Stage.afterCopy : Except Error Unit → List (List Stage)
  | .ok _ => [[.regenerated], [.regenerated, .skipped], [.regenerated, .merged]]
  | .error _ => [[], [.regenerated]]

namespace Regenerator

/-- There is a visitor, and it is copied. -/
def BacksUp (files : RunFiles) (disk : Disk) : Prop :=
  disk.exists? files.visitor.toText = .ok true ∧
    ∃ copied, disk.copyFile files.visitor files.backup = .ok copied

/-- There is a backup right after the tool has run. -/
def FindsBackup (tool : Tool) (files : RunFiles) (disk : Disk) : Prop :=
  ∃ copied, Copies files.visitor files.backup disk copied ∧
    (tool.edited files.folder copied).exists? files.backup.toText = .ok true

/-- The record of a run on a disk agrees with what the run has done. -/
structure Agrees (tool : Tool) (files : RunFiles) (disk : Disk) (calls : List Launch) (run : Run) :
    Prop where
  /-- The grammar is named. -/
  grammar : run.grammar = files.grammar
  /-- The visitor is named. -/
  visitor : run.visitor = files.visitor
  /-- The visitor was there and has been copied. -/
  backedUp : .backedUp ∈ run.history ↔ BacksUp files disk
  /-- The tool is called once at most. -/
  once : calls.length ≤ 1
  /-- The tool has been called, has ended well, and what it has printed could be read. -/
  regenerated : .regenerated ∈ run.history ↔ calls ≠ [] ∧ tool.ExitsWell ∧ tool.PrintsUtf8
  /-- There is a summary of a merge. -/
  summary : run.summary.isSome ↔ .merged ∈ run.history
  /-- The backup is named once it is found after the tool has run. -/
  backup : ∀ path, run.backup = some path ↔
    files.backup = path ∧ .regenerated ∈ run.history ∧ FindsBackup tool files disk
  /-- Nothing is merged without a backup. -/
  merging : .skipped ∈ run.history ∨ .merged ∈ run.history → run.backup = some files.backup

/-- The record of a run agrees with what the run has done and says how it has ended. -/
structure Recorded (tool : Tool) (files : RunFiles) (disk : Disk) (result : Except Error Unit)
    (calls : List Launch) (run : Run) : Prop extends Agrees tool files disk calls run where
  /-- The stages follow each other as they should. -/
  history : run.history ∈ Stage.histories
  /-- The run is done if it returns. -/
  done : run.stage = .ok .done ↔ result = .ok ()
  /-- The run has failed if it ends in an error that is reported. -/
  failed : run.stage = .ok .failed ↔ ∃ e, result = .error e ∧ e.category?.isSome
  /-- If the tool has been called and has printed what cannot be read, then this is the error. -/
  unread : calls ≠ [] → ¬ tool.PrintsUtf8 → ∃ e, result = .error (.outputUndecodable e)
  /-- A run that returns has come to a merge, or to none for lack of differences or of a backup. -/
  outcome : result = .ok () → ∃ stage ∈ [Stage.merged, .skipped, .regenerated],
    run.outcome = .ok stage

variable {regenerator : Regenerator} {tool : Tool} {files : RunFiles} {disk begun after : Disk}
  {run last : Run} {result : Except Error Unit} {calls : List Launch}

/-! ## Before the tool is called -/

theorem Copies.unique {visitor backup : Path} {copied : Disk}
    (h : Copies visitor backup disk begun) (h' : Copies visitor backup disk copied) :
    begun = copied := by
  rcases h with ⟨hthere, hcopy⟩ | ⟨hthere, rfl⟩
  · rcases h' with ⟨-, hcopy'⟩ | ⟨hmissing, -⟩
    · exact Except.ok.inj (hcopy.symm.trans hcopy')
    · exact absurd (hthere.symm.trans hmissing) (by simp)
  · rcases h' with ⟨hfound, -⟩ | ⟨-, rfl⟩
    · exact absurd (hthere.symm.trans hfound) (by simp)
    · rfl

theorem Begins.backedUp_iff (h : Begins files disk begun run) :
    .backedUp ∈ run.history ↔ BacksUp files disk := by
  cases h with
  | absent hthere => simp [RunFiles.start, Run.start, BacksUp, hthere]
  | copied hthere hcopy => simp [Run.through, BacksUp, hthere, hcopy]

/-- A record at the beginning of a run, which holds nothing of what follows. -/
structure Fresh (files : RunFiles) (run : Run) : Prop where
  /-- The grammar is named. -/
  grammar : run.grammar = files.grammar
  /-- The visitor is named. -/
  visitor : run.visitor = files.visitor
  /-- No backup is named. -/
  backup : run.backup = none
  /-- There is no summary. -/
  summary : run.summary = none
  /-- At most the copy has been made. -/
  history : ∃ copy ∈ [[], [.backedUp]], run.history = .idle :: copy

theorem fresh_start (files : RunFiles) : Fresh files files.start :=
  ⟨rfl, rfl, rfl, rfl, [], by simp, rfl⟩

theorem Begins.fresh (h : Begins files disk begun run) : Fresh files run := by
  cases h with
  | absent => exact fresh_start files
  | copied => exact ⟨rfl, rfl, rfl, rfl, [.backedUp], by simp, rfl⟩

theorem Fresh.not_mem (h : Fresh files run) {stage : Stage} (hidle : stage ≠ .idle)
    (hbackedUp : stage ≠ .backedUp) : stage ∉ run.history := by
  obtain ⟨copy, hcopy, hhistory⟩ := h.history
  rw [hhistory]
  rcases List.mem_pair.1 hcopy with rfl | rfl
  · simpa using hidle
  · simp [hidle, hbackedUp]

/-- A record at the beginning agrees with a run whose tool has not succeeded. -/
theorem Fresh.agrees (h : Fresh files run) (hbacks : .backedUp ∈ run.history ↔ BacksUp files disk)
    (honce : calls.length ≤ 1) (htool : ¬ (calls ≠ [] ∧ tool.Succeeds)) :
    Agrees tool files disk calls run := by
  have hregenerated : .regenerated ∉ run.history := h.not_mem (by simp) (by simp)
  have hskipped : .skipped ∉ run.history := h.not_mem (by simp) (by simp)
  have hmerged : .merged ∉ run.history := h.not_mem (by simp) (by simp)
  refine ⟨h.grammar, h.visitor, hbacks, honce, iff_of_false hregenerated htool, ?_, ?_, ?_⟩
  · simp [h.summary, hmerged]
  · simp [h.backup, hregenerated]
  · simp [hskipped, hmerged]

/-! ## After the tool has run -/

/-- What follows the tool leaves the paths of a record and adds stages to its history. -/
theorem Finishing.record (h : Finishing regenerator files disk run result after last) :
    last.grammar = run.grammar ∧ last.visitor = run.visitor ∧
      ∃ rest ∈ Stage.afterCopy result, .regenerated ∈ rest ∧ .backedUp ∉ rest ∧
        last.history = run.history ++ rest := by
  cases h with
  | unseen | alone | unmerged =>
    exact ⟨rfl, rfl, [.regenerated], by simp [Stage.afterCopy], by simp, by simp, rfl⟩
  | @merged summary =>
    refine ⟨rfl, rfl, [.regenerated, if summary.isNone then .skipped else .merged], ?_, by simp, ?_,
      ?_⟩
    · cases summary <;> simp [Stage.afterCopy]
    · cases summary <;> simp
    · simp [mergedRun]

theorem Finishing.backup_eq_some_iff
    (h : Finishing regenerator files disk run result after last) (hfresh : Fresh files run)
    (path : Path) :
    last.backup = some path ↔
      files.backup = path ∧ disk.exists? files.backup.toText = .ok true := by
  cases h with
  | unseen hthere | alone hthere => simp [Run.through, hfresh.backup, hthere]
  | unmerged hthere | merged hthere => simp [mergedRun, hthere]

theorem Finishing.summary_isSome_iff
    (h : Finishing regenerator files disk run result after last) (hfresh : Fresh files run) :
    last.summary.isSome ↔ .merged ∈ last.history := by
  have hmerged : .merged ∉ run.history := hfresh.not_mem (by simp) (by simp)
  cases h with
  | unseen | alone | unmerged => simp [Run.through, hfresh.summary, hmerged]
  | @merged summary => cases summary <;> simp [mergedRun, hmerged]

theorem Finishing.backup_of_merging
    (h : Finishing regenerator files disk run result after last) (hfresh : Fresh files run)
    (hlast : .skipped ∈ last.history ∨ .merged ∈ last.history) :
    last.backup = some files.backup := by
  have hskipped : .skipped ∉ run.history := hfresh.not_mem (by simp) (by simp)
  have hmerged : .merged ∉ run.history := hfresh.not_mem (by simp) (by simp)
  cases h with
  | unseen | alone => simp [Run.through, hskipped, hmerged] at hlast
  | unmerged | merged => rfl

/-- The record agrees with a run whose tool has succeeded. -/
theorem Finishing.agrees
    (h : Finishing regenerator files (tool.edited files.folder begun) run result after last)
    (hbegins : Begins files disk begun run) (htool : tool.Succeeds) (launch : Launch) :
    Agrees tool files disk [launch] last := by
  have hfresh := hbegins.fresh
  obtain ⟨hgrammar, hvisitor, rest, -, hregenerated, hbackedUp, hhistory⟩ := h.record
  have hmem : .regenerated ∈ last.history := by
    rw [hhistory]
    exact List.mem_append_right _ hregenerated
  refine ⟨hgrammar.trans hfresh.grammar, hvisitor.trans hfresh.visitor, ?_, by simp, ?_,
    h.summary_isSome_iff hfresh, ?_, h.backup_of_merging hfresh⟩
  · rw [hhistory, List.mem_append, or_iff_left hbackedUp, hbegins.backedUp_iff]
  · exact iff_of_true hmem ⟨by simp, htool⟩
  · intro path
    rw [h.backup_eq_some_iff hfresh]
    refine and_congr_right fun _ => ⟨fun hthere => ⟨hmem, begun, hbegins.copies, hthere⟩, ?_⟩
    rintro ⟨-, copied, hcopies, hthere⟩
    rwa [hbegins.copies.unique hcopies]

/-! ## Whole runs -/

/-- The record agrees with a run, whichever course it has taken. -/
theorem Course.agrees (h : Course regenerator tool files disk result after calls run) :
    Agrees tool files disk calls run := by
  cases h with
  | unseen hthere =>
    refine (fresh_start files).agrees ?_ (by simp) (by simp)
    simp [RunFiles.start, Run.start, BacksUp, hthere]
  | uncopied hthere hcopy =>
    refine (fresh_start files).agrees ?_ (by simp) (by simp)
    simp [RunFiles.start, Run.start, BacksUp, hcopy]
  | uncalled hbegins => exact hbegins.fresh.agrees hbegins.backedUp_iff (by simp) (by simp)
  | failed hbegins hwords htool =>
    refine hbegins.fresh.agrees hbegins.backedUp_iff (by simp) ?_
    rintro ⟨-, hsucceeds⟩
    rw [Tool.ending_eq_ok_iff.2 hsucceeds] at htool
    exact absurd htool (by simp)
  | generated hbegins hwords htool hfinish => exact hfinish.agrees hbegins htool _

/-- A tool whose output cannot be read makes a run fail once it has been called. -/
theorem Course.unread (h : Course regenerator tool files disk result after calls run)
    (hcalls : calls ≠ []) (hprints : ¬ tool.PrintsUtf8) :
    ∃ e, result = .error (.outputUndecodable e) := by
  cases h with
  | unseen | uncopied | uncalled => exact absurd rfl hcalls
  | failed hbegins hwords htool =>
    obtain ⟨e, hending⟩ := Tool.ending_of_not_printsUtf8 hprints
    exact ⟨e, htool.symm.trans hending⟩
  | generated hbegins hwords htool => exact absurd htool.2 hprints

/-- The end of a run adds to its record how it has ended, and nothing else. -/
theorem Agrees.through (h : Agrees tool files disk calls run) (result : Except Error Unit) :
    Agrees tool files disk calls (run.through (Run.closing result)) := by
  have hmem : ∀ stage, stage ≠ .done → stage ≠ .failed →
      (stage ∈ (run.through (Run.closing result)).history ↔ stage ∈ run.history) := by
    intro stage hdone hfailed
    have hclosing : stage ∉ Run.closing result := by
      unfold Run.closing
      split
      · simpa using hdone
      · split <;> simp [hfailed]
    simp [Run.through, hclosing]
  constructor
  · exact h.grammar
  · exact h.visitor
  · rw [hmem _ (by simp) (by simp), h.backedUp]
  · exact h.once
  · rw [hmem _ (by simp) (by simp), h.regenerated]
  · rw [hmem _ (by simp) (by simp)]
    exact h.summary
  · rw [hmem _ (by simp) (by simp)]
    exact h.backup
  · rw [hmem _ (by simp) (by simp), hmem _ (by simp) (by simp)]
    exact h.merging

/-- The stages that the steps of a run have entered. -/
theorem Course.history (h : Course regenerator tool files disk result after calls run) :
    ∃ copy ∈ [[], [.backedUp]], ∃ rest ∈ Stage.afterCopy result,
      run.history = .idle :: (copy ++ rest) := by
  have hstopped : ∀ {e run}, Fresh files run → ∃ copy ∈ [[], [.backedUp]],
      ∃ rest ∈ Stage.afterCopy (.error e), run.history = .idle :: (copy ++ rest) := by
    intro e run hfresh
    obtain ⟨copy, hcopy, hhistory⟩ := hfresh.history
    exact ⟨copy, hcopy, [], by simp [Stage.afterCopy], by simp [hhistory]⟩
  cases h with
  | unseen | uncopied => exact hstopped (fresh_start files)
  | uncalled hbegins | failed hbegins => exact hstopped hbegins.fresh
  | generated hbegins hwords htool hfinish =>
    obtain ⟨copy, hcopy, hbegun⟩ := hbegins.fresh.history
    obtain ⟨-, -, rest, hrest, -, -, hhistory⟩ := hfinish.record
    exact ⟨copy, hcopy, rest, hrest, by simp [hhistory, hbegun]⟩

/-- The stages of a run that has ended. -/
theorem mem_histories {copy rest : List Stage} (hcopy : copy ∈ [[], [.backedUp]])
    (hrest : rest ∈ Stage.afterCopy result) :
    .idle :: (copy ++ rest ++ Run.closing result) ∈ Stage.histories := by
  have hcheck : ∀ copy ∈ [[], [Stage.backedUp]],
      (∀ rest ∈ [[Stage.regenerated], [.regenerated, .skipped], [.regenerated, .merged]],
        .idle :: (copy ++ rest ++ [.done]) ∈ Stage.histories) ∧
      ∀ rest ∈ [[], [Stage.regenerated]], ∀ closing ∈ [[], [Stage.failed]],
        .idle :: (copy ++ rest ++ closing) ∈ Stage.histories := by
    decide
  cases result with
  | ok _ => exact (hcheck copy hcopy).1 rest hrest
  | error e =>
    refine (hcheck copy hcopy).2 rest hrest _ ?_
    rw [Run.closing]
    split <;> simp

theorem not_mem_afterCopy {copy rest : List Stage} (hcopy : copy ∈ [[], [.backedUp]])
    (hrest : rest ∈ Stage.afterCopy result) :
    .done ∉ Stage.idle :: (copy ++ rest) ∧ .failed ∉ Stage.idle :: (copy ++ rest) := by
  have hcheck : ∀ copy ∈ [[], [Stage.backedUp]],
      ∀ rest ∈ [[], [Stage.regenerated], [.regenerated, .skipped], [.regenerated, .merged]],
        .done ∉ Stage.idle :: (copy ++ rest) ∧ .failed ∉ Stage.idle :: (copy ++ rest) := by
    decide
  cases result with
  | ok _ => exact hcheck copy hcopy rest (List.mem_cons_of_mem _ hrest)
  | error e =>
    rcases List.mem_pair.1 hrest with rfl | rfl
    · exact hcheck copy hcopy _ (by simp)
    · exact hcheck copy hcopy _ (by simp)

/-- The last stage of a run says how it has ended, if no earlier one does. -/
theorem stage_closing (hdone : .done ∉ run.history) (hfailed : .failed ∉ run.history) :
    ((run.through (Run.closing result)).stage = .ok .done ↔ result = .ok ()) ∧
      ((run.through (Run.closing result)).stage = .ok .failed ↔
        ∃ e, result = .error e ∧ e.category?.isSome) := by
  cases result with
  | ok _ =>
    have hstage : (run.through [.done]).stage = .ok .done := stage_of_history rfl
    simp [Run.closing, hstage]
  | error e =>
    by_cases hreported : e.category?.isSome
    · have hstage : (run.through [.failed]).stage = .ok .failed := stage_of_history rfl
      simp [Run.closing, hreported, hstage]
    · have hstage : ∀ stage, stage ∉ run.history → run.stage ≠ .ok stage := by
        intro stage hstage hlast
        refine hstage (List.mem_of_getLast? ?_)
        rw [Run.stage, Run.latest] at hlast
        split at hlast
        · rwa [← Except.ok.inj hlast]
        · cases hlast
      simp [Run.closing, hreported, Run.through_nil, hstage _ hdone, hstage _ hfailed]

theorem Course.recorded (h : Course regenerator tool files disk result after calls run) :
    Recorded tool files disk result calls (run.through (Run.closing result)) := by
  obtain ⟨copy, hcopy, rest, hrest, hhistory⟩ := h.history
  have hends : (run.through (Run.closing result)).history =
      .idle :: (copy ++ rest ++ Run.closing result) := by
    simp [Run.through, hhistory]
  have hopen : .done ∉ run.history ∧ .failed ∉ run.history :=
    hhistory ▸ not_mem_afterCopy hcopy hrest
  obtain ⟨hdone, hfailed⟩ := stage_closing hopen.1 hopen.2
  refine ⟨h.agrees.through result, hends ▸ mem_histories hcopy hrest, hdone, hfailed, h.unread, ?_⟩
  rintro rfl
  have hlast : ∀ rest ∈ Stage.afterCopy (.ok ()), ∃ more ∈ [[], [Stage.regenerated]],
      ∃ stage ∈ [Stage.merged, .skipped, .regenerated], rest = more ++ [stage] := by
    decide
  obtain ⟨more, -, stage, hstage, rfl⟩ := hlast rest hrest
  have hsplit : (run.through (Run.closing (.ok ()))).history =
      .idle :: (copy ++ more) ++ [stage] ++ [.done] := by
    rw [hends]
    simp [Run.closing]
  refine ⟨stage, hstage, outcome_of_history hsplit ?_⟩
  rintro rfl
  simp at hstage

/-- A run that does not find its files ends in an error and leaves everything as it was.  Else it
leaves a record that agrees with what it has done and says how it has ended. -/
theorem run_recorded (regenerator : Regenerator) (tool : Tool) (argument : Option Text)
    (world : World) :
    Ends (regenerator.run tool argument) world fun result after =>
      match regenerator.settings.runFiles world.disk argument with
      | .error e => result = .error e ∧ after = world
      | .ok files => ∃ calls run, after.launches = world.launches ++ calls ∧
          after.latest = some run ∧ Recorded tool files world.disk result calls run := by
  refine (ends_run_course argument).mono fun result after hrun => ?_
  split
  · rename_i e hfiles
    rw [hfiles] at hrun
    exact hrun
  · rename_i files hfiles
    rw [hfiles] at hrun
    obtain ⟨calls, run, hlaunches, hlatest, hcourse⟩ := hrun
    exact ⟨calls, _, hlaunches, hlatest, hcourse.recorded⟩

/-- The tool is called, writes the visitor and ends with code zero, but the last byte that it prints
begins a character that does not come.  The error is not reported, and the record stops at the
copy. -/
theorem run_unread_default :
    let edited := Text.lit "V.a = function(ctx) \x7b\n  edited();\n\x7d;"
    let generated := Text.lit "V.a = function(ctx) \x7b\n\x7d;"
    let tool := Tool.working [.write (Text.lit "EVisitor.js") generated.encodeUtf8 none] 0
      [0x63, 0x61, 0x66, 0xE9] []
    let ended := (Regenerator.default.run tool (some (Text.lit "E.g4"))).run (sampleFolder edited)
    tool.ExitsWell ∧ ended.2.launches.length = 1 ∧
    ended.2.disk.readBytes sampleVisitor.toText = .ok generated.encodeUtf8 ∧
    ended.1.mapError Error.category? = .error none ∧
    ended.2.latest.map Run.history = some [.idle, .backedUp] := by
  decide +kernel

end Regenerator
end StubGraft
