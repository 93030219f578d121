import StubGraft.Proofs.Courses

/-!
# No visitor is lost

The tool is only called when the visitor has been copied to its backup, and what follows keeps the
backup: the tool itself has to leave it alone, and a merge writes the visitor, which is another
file.  So at the end of a run, whichever way it ends, the bytes that the visitor held are in its
place or in the backup.

* `Disk.passed`, `Disk.locate_of_passed` — a path leads where it led if the directories on its way
  stay.
* `Tool.Spares` — a tool leaves a path alone.
* `Regenerator.Course.kept` — every course keeps the bytes of the visitor.
* `Call.visitor_kept_or_backedUp` — so does every call.
-/

namespace StubGraft

open Disk Writer

namespace Disk

variable {a b disk : Disk} {k l m : Location} {path : Text} {names : List Text}

/-! ## Directories on the way -/

/-- The directories that a walk passes through. -/
def passedFrom (disk : Disk) (l : Location) : List Text → List Location
  | [] => []
  | name :: names =>
    match disk.step l name with
    | .error _ => []
    | .ok next => l :: disk.passedFrom next names

/-- The directories that a path passes through. -/
def passed (disk : Disk) (path : Text) : List Location :=
  disk.passedFrom (if path.head? = some '/' then [] else disk.workdir) (namesOf path)

theorem directory_of_mem_passedFrom (h : k ∈ disk.passedFrom l names) :
    disk.get? k = some .directory := by
  induction names generalizing l with
  | nil => cases h
  | cons name names ih =>
    rw [passedFrom] at h
    split at h
    · cases h
    · rename_i next hstep
      rcases List.mem_cons.1 h with rfl | hmem
      · exact directory_of_step hstep
      · exact ih hmem

theorem step_of_directory {name : Text} (hl : b.get? l = some .directory)
    (h : a.step l name = .ok m) : b.step l name = .ok m := by
  rw [step, directory_of_step h] at h
  rw [step, hl]
  exact h

/-- A walk leads where it led as long as the directories that it passes through are there. -/
theorem walk_of_passedFrom (h : ∀ k ∈ a.passedFrom l names, b.get? k = some .directory)
    (hwalk : a.walk l names = .ok m) : b.walk l names = .ok m := by
  induction names generalizing l with
  | nil => exact hwalk
  | cons name names ih =>
    rw [walk] at hwalk ⊢
    cases hstep : a.step l name with
    | error e => simp [hstep] at hwalk
    | ok next =>
      have hpassed : a.passedFrom l (name :: names) = l :: a.passedFrom next names := by
        rw [passedFrom, hstep]
      rw [hpassed] at h
      rw [step_of_directory (h l List.mem_cons_self) hstep]
      refine ih (fun k hk => h k (List.mem_cons_of_mem _ hk)) ?_
      simpa [hstep] using hwalk

theorem locate_of_passed (hworkdir : b.workdir = a.workdir)
    (h : ∀ k ∈ a.passed path, b.get? k = some .directory) (hlocate : a.locate path = .ok l) :
    b.locate path = .ok l := by
  obtain ⟨hnull, hfind⟩ := locate_eq_ok_iff.1 hlocate
  obtain ⟨hempty, hlong, hwalk⟩ := find_eq_ok_iff.1 hfind
  refine locate_eq_ok_iff.2 ⟨hnull, find_eq_ok_iff.2 ⟨hempty, hlong, ?_⟩⟩
  rw [hworkdir]
  exact walk_of_passedFrom h hwalk

theorem content?_eq_directory_iff :
    disk.content? l = some .directory ↔ disk.get? l = some .directory := by
  rw [content?]
  rcases disk.get? l with _ | (_ | ⟨mode, bytes⟩) <;> simp [Entry.content]

end Disk

/-! ## Tools that leave a path alone -/

/-- A tool spares a path: it neither writes nor deletes anything at its end, and it puts no file in
the place of a directory on the way. -/
def Tool.Spares (tool : Tool) (folder : Location) (disk : Disk) (path : Text) : Prop :=
  (∀ l, disk.locate path = .ok l → tool.leaves? folder l = none) ∧
    ∀ k ∈ disk.passed path, ∀ left ∈ tool.leaves? folder k, left = some .directory

instance (tool : Tool) (folder : Location) (disk : Disk) (path : Text) :
    Decidable (tool.Spares folder disk path) := by
  unfold Tool.Spares
  infer_instance

/-- A file that has been written stays if the tool spares its path. -/
theorem Tool.Spares.holdsAt {tool : Tool} {folder m : Location} {disk copied : Disk} {path : Text}
    {bytes : List UInt8} (h : tool.Spares folder disk path)
    (hwritten : Written disk path bytes m copied) :
    (tool.edited folder copied).HoldsAt path m bytes := by
  obtain ⟨hend, hway⟩ := h
  refine ⟨locate_of_passed ?_ ?_ hwritten.locate, content?_eq_file_iff.1 ?_⟩
  · exact (tool.workdir_edited folder copied).trans hwritten.changes.workdir
  · intro k hk
    have hdirectory : disk.get? k = some .directory := directory_of_mem_passedFrom hk
    have hne : k ≠ m := fun he => hwritten.place (he ▸ hdirectory)
    have hcopied : copied.content? k = some .directory :=
      content?_eq_directory_iff.2 ((hwritten.changes.elsewhere k hne).trans hdirectory)
    rw [← content?_eq_directory_iff, Tool.content?_edited, hcopied]
    cases hleaves : tool.leaves? folder k with
    | none => rfl
    | some left => exact hway k hk left hleaves
  · rw [Tool.content?_edited, hend m hwritten.locate]
    exact content?_eq_file_iff.2 hwritten.file

namespace Regenerator

variable {regenerator : Regenerator} {tool : Tool} {files : RunFiles} {disk begun after : Disk}
  {run last : Run} {result : Except Error Unit} {calls : List Launch} {l m : Location}
  {bytes : List UInt8} {argument : Option Text} {start : Disk}

/-! ## The backup is made and stays -/

/-- Where there is a visitor, the tool is not called before it has been copied. -/
theorem Begins.written (h : Begins files disk begun run)
    (hvisitor : disk.HoldsAt files.visitor.toText l bytes) :
    ∃ m, m ≠ l ∧ Written disk files.backup.toText bytes m begun := by
  cases h with
  | absent hthere =>
    rw [hvisitor.exists?] at hthere
    exact absurd hthere (by simp)
  | copied hthere hcopy => exact copyFile_eq_ok hcopy hvisitor

/-- What follows the tool keeps every file that is not the visitor. -/
theorem Finishing.holdsAt (h : Finishing regenerator files disk run result after last)
    (hfiles : regenerator.settings.runFiles start argument = .ok files) {path : Text}
    (hfile : disk.HoldsAt path m bytes)
    (hother : ∀ l, disk.locate files.visitor.toText = .ok l → m ≠ l) :
    after.HoldsAt path m bytes := by
  cases h with
  | unseen | alone => exact hfile
  | unmerged hthere hmerge => exact hmerge.keeps.holdsAt hfile
  | merged hthere hmerge =>
    obtain ⟨oldText, -, newText, hnew, hcases⟩ := hmerge
    split at hcases
    · obtain ⟨-, rfl⟩ := hcases
      exact hfile
    · obtain ⟨-, out, -, hwrites⟩ := hcases
      obtain ⟨l, _, hvisitor, -⟩ := exists_holdsAt_of_textAt? hnew
      obtain ⟨hgrammar, hpath, -⟩ := Settings.runFiles_eq_ok_iff.1 hfiles
      have hwritten := hwrites.written hpath (anchor_of_resolveGrammar hgrammar) hvisitor.locate
      exact hfile.of_changesOnly hwritten.changes hwritten.place (hother l hvisitor.locate)

/-- Whichever course a run takes, the bytes of the visitor are in the backup, or else the tool has
not been called and they are in their place. -/
theorem Course.kept (h : Course regenerator tool files disk result after calls run)
    (hfiles : regenerator.settings.runFiles start argument = .ok files)
    (hvisitor : disk.HoldsAt files.visitor.toText l bytes)
    (hspares : tool.Spares files.folder disk files.backup.toText) :
    calls = [] ∧ after.HoldsAt files.visitor.toText l bytes ∨
      ∃ m, after.HoldsAt files.backup.toText m bytes := by
  cases h with
  | unseen | uncopied => exact Or.inl ⟨rfl, hvisitor⟩
  | uncalled hbegins =>
    obtain ⟨m, -, hwritten⟩ := hbegins.written hvisitor
    exact Or.inr ⟨m, hwritten.holdsAt⟩
  | failed hbegins =>
    obtain ⟨m, -, hwritten⟩ := hbegins.written hvisitor
    exact Or.inr ⟨m, hspares.holdsAt hwritten⟩
  | @generated begun _ _ _ _ _ hbegins hwords htool hfinish =>
    obtain ⟨m, hne, hwritten⟩ := hbegins.written hvisitor
    refine Or.inr ⟨m, hfinish.holdsAt hfiles (hspares.holdsAt hwritten) fun l' hlocate => ?_⟩
    -- the visitor is still looked for where it was
    have hworkdir : (tool.edited files.folder begun).workdir = disk.workdir :=
      (tool.workdir_edited files.folder begun).trans hwritten.changes.workdir
    rw [← locate_unique hworkdir hvisitor.locate hlocate]
    exact hne

end Regenerator

/-- A call on a visitor whose tool spares the backup ends, in whichever way, with the bytes of the
visitor in the backup, or else without a call of the tool and with the bytes in their place. -/
theorem Call.visitor_kept_or_backedUp {call : Call} {regenerator : Regenerator} {world : World}
    {grammar visitor : Path} {bytes : List UInt8}
    (hgrammar : ∀ found,
      regenerator.settings.resolveGrammar world.disk call.argument = .ok found → found = grammar)
    (hvisitor : regenerator.settings.visitorPath grammar = .ok visitor)
    (hbytes : world.disk.readBytes visitor.toText = .ok bytes)
    (hspares : ∀ backup, regenerator.settings.backupPath visitor = .ok backup →
      call.tool.Spares grammar.parent.parts world.disk backup.toText) :
    (call.after regenerator world).launches = world.launches ∧
        (call.after regenerator world).disk.readBytes visitor.toText = .ok bytes ∨
      ∃ backup, regenerator.settings.backupPath visitor = .ok backup ∧
        (call.after regenerator world).disk.readBytes backup.toText = .ok bytes := by
  cases hfiles : regenerator.settings.runFiles world.disk call.argument with
  | error e =>
    obtain ⟨-, hafter⟩ := Call.eq_of_runFiles_error hfiles
    rw [hafter]
    exact Or.inl ⟨rfl, hbytes⟩
  | ok files =>
    obtain ⟨calls, run, hlaunches, -, hcourse⟩ := Call.course_of_runFiles hfiles
    obtain ⟨hresolves, hpath, hbackup⟩ := Settings.runFiles_eq_ok_iff.1 hfiles
    obtain rfl := hgrammar _ hresolves
    obtain rfl : visitor = files.visitor := Except.ok.inj (hvisitor.symm.trans hpath)
    obtain ⟨l, hfile⟩ := readBytes_eq_ok_iff.1 hbytes
    rcases hcourse.kept hfiles hfile (hspares _ hbackup) with ⟨rfl, hkept⟩ | ⟨m, hcopy⟩
    · exact Or.inl ⟨hlaunches.trans (List.append_nil _), readBytes_eq_ok_iff.2 ⟨l, hkept⟩⟩
    · exact Or.inr ⟨files.backup, hbackup, readBytes_eq_ok_iff.2 ⟨m, hcopy⟩⟩

/-- The tool has written another visitor and a file in a new folder and has deleted the grammar when
it fails; then the backup holds the edited visitor. -/
theorem Call.visitor_kept_or_backedUp_default :
    let edited := Text.lit "V.a = function(ctx) \x7b\n  edited();\n\x7d;"
    let backup : Path := ⟨.root, [Text.lit "EVisitor.js.old"]⟩
    let world := sampleFolder edited
    let call : Call := ⟨some (Text.lit "E.g4"),
      .working [.write (Text.lit "EVisitor.js") [] none, .write (Text.lit "more/file") [1] none,
        .delete (Text.lit "E.g4")] 1 [] []⟩
    (world.disk.readBytes sampleVisitor.toText = .ok edited.encodeUtf8 ∧
      call.tool.Spares sampleGrammar.parent.parts world.disk backup.toText) ∧
    (call.after .default world).launches ≠ world.launches ∧
    Regenerator.default.settings.backupPath sampleVisitor = .ok backup ∧
    (call.after .default world).disk.readBytes backup.toText = .ok edited.encodeUtf8 := by
  intro edited backup world call
  have hbytes : world.disk.readBytes sampleVisitor.toText = .ok edited.encodeUtf8 := by
    decide +kernel
  have hbackup : Regenerator.default.settings.backupPath sampleVisitor = .ok backup := by
    decide +kernel
  have hspares : call.tool.Spares sampleGrammar.parent.parts world.disk backup.toText := by
    decide +kernel
  have hcalled : (call.after .default world).launches ≠ world.launches := by
    decide +kernel
  refine ⟨⟨hbytes, hspares⟩, hcalled, hbackup, ?_⟩
  have hkept := @Call.visitor_kept_or_backedUp call .default world sampleGrammar sampleVisitor
    edited.encodeUtf8 (by decide +kernel) (by decide +kernel) hbytes (by decide +kernel)
  obtain ⟨hsame, -⟩ | ⟨found, hfound, hcopy⟩ := hkept
  · exact absurd hsame hcalled
  · obtain rfl : found = backup := Except.ok.inj (hfound.symm.trans hbackup)
    exact hcopy

end StubGraft
