import StubGraft.Proofs.Actions
import StubGraft.Proofs.Disks
import StubGraft.Run.Writer

/-!
# What writing a file does to a disk

A write that succeeds changes the file at the end of its path, and at most adds directories; one
that fails loses nothing.  Through a temporary file it passes through several disks, and what is
said of it follows from what each operation leaves alone.

* `ends_makeDirectories`, `ends_createTemporary`, `Writer.ends_replace` — the single operations.
* `Writer.ends_write` — a whole write of a text.
-/

namespace StubGraft

open Disk

/-! ## Nothing is lost -/

/-- What stands on one disk stands on another with the same working directory. -/
structure Disk.KeepsEntries (a b : Disk) : Prop where
  /-- The working directory is the same. -/
  workdir : b.workdir = a.workdir
  /-- The entries stay. -/
  entry : ∀ l entry, a.get? l = some entry → b.get? l = some entry

namespace Disk

variable {a b c disk : Disk} {l m : Location} {path : Text}

theorem KeepsEntries.trans (h : KeepsEntries a b) (h' : KeepsEntries b c) : KeepsEntries a c :=
  ⟨h'.workdir.trans h.workdir, fun l entry hl => h'.entry l entry (h.entry l entry hl)⟩

theorem KeepsEntries.keepsDirectories (h : KeepsEntries a b) : KeepsDirectories a b :=
  ⟨h.workdir, fun l hl => h.entry l _ hl⟩

theorem KeepsEntries.holdsAt {bytes : List UInt8} (h : KeepsEntries a b)
    (hfile : a.HoldsAt path l bytes) : b.HoldsAt path l bytes := by
  obtain ⟨mode, hl⟩ := hfile.file
  exact ⟨locate_of_keeps h.keepsDirectories hfile.locate, mode, h.entry l _ hl⟩

theorem Grows.keepsEntries (h : Grows a b) : KeepsEntries a b :=
  ⟨h.workdir, fun _ _ hl => h.get?_of_some hl⟩

theorem ChangesOnly.keepsEntries (h : ChangesOnly l a b) (hl : a.get? l = none) :
    KeepsEntries a b := by
  refine ⟨h.workdir, fun m entry hm => ?_⟩
  have hne : m ≠ l := fun he => by simp [he, hl] at hm
  rw [h.elsewhere m hne, hm]

end Disk

/-! ## Directories -/

namespace DiskAction

variable {disk : Disk}

theorem grows_makeDirectory {path : Text} {after : Disk}
    (h : disk.makeDirectory path = .ok after) : Grows disk after := by
  rw [makeDirectory, bind_eq_ok_iff] at h
  obtain ⟨l, -, h⟩ := h
  cases hentry : disk.get? l with
  | some entry => simp [hentry, refuse] at h
  | none =>
    have hl : l ≠ [] := @ne_nil_of_get? disk l (by simp [hentry])
    obtain rfl : disk.put l .directory = after := by
      simpa [hentry, pure, Except.pure] using h
    refine ⟨rfl, fun m => ?_⟩
    rw [get?_put disk hl]
    split
    · exact Or.inr ⟨‹m = l› ▸ hentry, rfl⟩
    · exact Or.inl rfl

theorem ends_tryMakeDirectory (disk : Disk) (path : Text) :
    Ends (tryMakeDirectory path) disk fun _ after => Grows disk after := by
  unfold tryMakeDirectory
  rw [ends_bind, ends_get]
  dsimp only
  cases h : disk.makeDirectory path with
  | ok after => exact grows_makeDirectory h
  | error e => exact .refl disk

theorem ends_unlessDirectory (disk : Disk) (path : Text) (e : SystemError) :
    Ends (unlessDirectory path e) disk fun _ after => after = disk := by
  unfold unlessDirectory
  rw [ends_bind, ends_ask]
  rcases disk.isDirectory? path with e' | (_ | _)
  · exact rfl
  · exact rfl
  · exact rfl

theorem ends_makeLastDirectory (disk : Disk) (path : Text) :
    Ends (makeLastDirectory path) disk fun _ after => Grows disk after := by
  unfold makeLastDirectory
  refine (ends_tryMakeDirectory disk path).bind ?_ fun _ _ h => h
  intro fault middle hmiddle
  rcases fault with _ | (_ | e)
  · exact hmiddle
  · exact hmiddle
  · dsimp only
    split
    · exact hmiddle
    · exact (ends_unlessDirectory middle path e).mono fun _ after h => h ▸ hmiddle

theorem ends_makeDirectoriesFrom (disk : Disk) (anchor : Anchor) (parts : List Text) :
    Ends (makeDirectoriesFrom anchor parts) disk fun _ after => Grows disk after := by
  induction parts generalizing disk with
  | nil => exact ends_makeLastDirectory disk _
  | cons part above ih =>
    unfold makeDirectoriesFrom
    refine (ends_tryMakeDirectory disk _).bind ?_ fun _ _ h => h
    intro fault middle hmiddle
    rcases fault with _ | (_ | e)
    · exact hmiddle
    · exact hmiddle
    · dsimp only
      split
      · refine ((ih middle).mono fun _ _ h => hmiddle.trans h).bind ?_ fun _ _ h => h
        intro _ next hnext
        exact (ends_makeLastDirectory next _).mono fun _ _ h => hnext.trans h
      · exact (ends_unlessDirectory middle _ e).mono fun _ after h => h ▸ hmiddle

/-- Making directories adds directories, whether it succeeds or not. -/
theorem ends_makeDirectories (disk : Disk) (path : Path) :
    Ends (makeDirectories path) disk fun _ after => Grows disk after :=
  ends_makeDirectoriesFrom disk path.anchor path.parts.reverse

/-! ## Temporary files -/

theorem createFile_eq_ok_iff {path : Text} {after : Disk} :
    disk.createFile path = .ok after ↔
      ∃ l, disk.locate path = .ok l ∧ disk.get? l = none ∧
        after = disk.put l (.file privateMode []) := by
  rw [createFile, bind_eq_ok_iff]
  refine exists_congr fun l => and_congr_right fun _ => ?_
  cases disk.get? l with
  | none => simp [pure, Except.pure, eq_comm]
  | some entry => simp [refuse]

/-- A temporary file stands beside its path, where nothing stood. -/
theorem ends_createTemporary (disk : Disk) (path : Path) :
    Ends (createTemporary path) disk fun result after =>
      match result with
      | .ok temporary => temporary = temporaryPath disk path ∧
          ∃ l, disk.locate temporary = .ok l ∧ disk.get? l = none ∧
            after = disk.put l (.file privateMode [])
      | .error _ => after = disk := by
  unfold createTemporary
  rw [ends_bind, ends_get]
  dsimp only
  rw [ends_bind, ends_change]
  cases h : disk.createFile (temporaryPath disk path) with
  | ok after => exact ⟨rfl, createFile_eq_ok_iff.1 h⟩
  | error e => exact rfl

end DiskAction

/-! ## A temporary file in place of another -/

namespace Disk

variable {disk after : Disk} {source target : Text}

/-- Copying a mode leaves the bytes of the file. -/
theorem copyMode_eq_ok (h : disk.copyMode source target = .ok after) {l : Location} {mode : Nat}
    {bytes : List UInt8} (hlocate : disk.locate target = .ok l)
    (hfile : disk.get? l = some (.file mode bytes)) :
    ∃ entry, disk.entryAt source = .ok entry ∧
      after = disk.put l (.file (modeOf entry) bytes) := by
  have hentry : disk.entryAt target = .ok (.file mode bytes) :=
    entryAt_eq_ok_iff.2 ⟨l, hlocate, hfile⟩
  rw [copyMode, hlocate, hentry, bind_eq_ok_iff] at h
  obtain ⟨entry, hsource, h⟩ := h
  exact ⟨entry, hsource, (Except.ok.inj h).symm⟩

/-- A file that is moved takes the place of no directory. -/
theorem rename_eq_ok (h : disk.rename source target = .ok after) :
    ∃ l m entry, disk.locate source = .ok l ∧ disk.locate target = .ok m ∧
      disk.get? l = some entry ∧ disk.get? m ≠ some .directory ∧
      after = (disk.erase l).put m entry := by
  unfold rename at h
  by_cases hnull : source.contains '\x00' = true ∨ target.contains '\x00' = true
  · rw [if_pos hnull] at h
    exact absurd h (by simp [bind, Except.bind, throw, throwThe, MonadExceptOf.throw])
  rw [if_neg hnull] at h
  simp only [not_or, Bool.not_eq_true] at hnull
  simp only [locate_eq_ok_iff]
  split at h
  · exact absurd h (by simp)
  · exact absurd h (by simp)
  · rename_i l m hl hm
    split at h
    · exact absurd h (by simp)
    · split at h
      · exact absurd h (by simp)
      · exact absurd h (by simp)
      · rename_i entry hentry hplace
        refine ⟨l, m, entry, ⟨hnull.1, hl⟩, ⟨hnull.2, hm⟩, hentry, hplace, ?_⟩
        simpa [pure, Except.pure, eq_comm] using h

end Disk

namespace Writer

variable {disk middle : Disk} {temporary target : Text} {t : Location} {bytes : List UInt8}

/-- A disk is like another, but for a file with the given bytes at a location. -/
structure Filled (disk : Disk) (t : Location) (bytes : List UInt8) (middle : Disk) : Prop where
  /-- Nothing else has changed. -/
  changes : ChangesOnly t disk middle
  /-- The file holds the bytes. -/
  file : ∃ mode, middle.get? t = some (.file mode bytes)

/-- A disk is like another, but for a file with the given bytes at the end of a path, and for
nothing at a location. -/
structure Replaced (disk : Disk) (t : Location) (target : Text) (bytes : List UInt8)
    (l : Location) (after : Disk) : Prop where
  /-- The path leads to the location of the file. -/
  locate : disk.locate target = .ok l
  /-- The file takes the place of no directory. -/
  place : disk.get? l ≠ some .directory
  /-- The working directory is the same. -/
  workdir : after.workdir = disk.workdir
  /-- The file holds the bytes. -/
  file : ∃ mode, after.get? l = some (.file mode bytes)
  /-- Nothing stands at the location, and nothing else has changed. -/
  elsewhere : ∀ m, m ≠ l → after.get? m = if m = t then none else disk.get? m

theorem filled_putBytes (ht : t ≠ []) : Filled disk t bytes (disk.putBytes t bytes) :=
  ⟨changesOnly_putBytes disk ht bytes, _, get?_putBytes disk ht bytes⟩

theorem Filled.not_directory (h : Filled disk t bytes middle) :
    middle.get? t ≠ some .directory := by
  obtain ⟨mode, hfile⟩ := h.file
  simp [hfile]

theorem Filled.ne_nil (h : Filled disk t bytes middle) : t ≠ [] := ne_nil_of_get? h.not_directory

theorem Filled.locate (h : Filled disk t bytes middle) (hfile : disk.get? t ≠ some .directory)
    {path : Text} {l : Location} : middle.locate path = .ok l ↔ disk.locate path = .ok l := by
  exact ⟨locate_of_keeps (h.changes.symm.keepsDirectories h.not_directory),
    locate_of_keeps (h.changes.keepsDirectories hfile)⟩

/-- Copying a mode to a filled file leaves it filled. -/
theorem Filled.copyMode (h : Filled disk t bytes middle) (hlocate : middle.locate temporary = .ok t)
    {source : Text} {after : Disk} (hcopy : middle.copyMode source temporary = .ok after) :
    Filled disk t bytes after := by
  obtain ⟨mode, hbytes⟩ := h.file
  obtain ⟨entry, -, rfl⟩ := copyMode_eq_ok hcopy hlocate hbytes
  refine ⟨h.changes.trans (changesOnly_put middle h.ne_nil _), modeOf entry, ?_⟩
  rw [get?_put middle h.ne_nil, if_pos rfl]

/-- Moving a filled file to its place. -/
theorem Filled.rename (h : Filled disk t bytes middle) (hfile : disk.get? t ≠ some .directory)
    (hlocate : disk.locate temporary = .ok t) {after : Disk}
    (hrename : middle.rename temporary target = .ok after) :
    ∃ l, Replaced disk t target bytes l after := by
  obtain ⟨t', l, entry, ht', hl, hentry, hplace, rfl⟩ := rename_eq_ok hrename
  obtain rfl : t' = t := Except.ok.inj (ht'.symm.trans ((h.locate hfile).2 hlocate))
  obtain ⟨mode, hbytes⟩ := h.file
  obtain rfl : entry = .file mode bytes := Option.some.inj (hentry.symm.trans hbytes)
  have hne : l ≠ [] := ne_nil_of_get? hplace
  refine ⟨l, (h.locate hfile).1 hl, ?_, h.changes.workdir, ⟨mode, ?_⟩, ?_⟩
  · by_cases he : l = t'
    · exact he ▸ hfile
    · rwa [← h.changes.elsewhere l he]
  · rw [get?_put _ hne, if_pos rfl]
  · intro m hm
    rw [get?_put _ hne, if_neg hm, get?_erase _ h.ne_nil]
    split
    · rfl
    · exact h.changes.elsewhere m ‹_›

/-- A temporary file takes the place of another and leaves its own free; where it does not, nothing
else has changed. -/
theorem ends_replace (bytes : List UInt8) (hlocate : disk.locate temporary = .ok t)
    (hfile : disk.get? t ≠ some .directory) :
    Ends (replace temporary target bytes) disk fun result after =>
      match result with
      | .ok _ => ∃ l, Replaced disk t target bytes l after
      | .error _ => ChangesOnly t disk after ∧ after.get? t ≠ some .directory := by
  have hwrite : disk.writeFile temporary bytes = .ok (disk.putBytes t bytes) :=
    writeFile_eq_ok_iff.2 ⟨t, hlocate, hfile, rfl⟩
  have hfilled : Filled disk t bytes (disk.putBytes t bytes) :=
    filled_putBytes (ne_nil_of_get? hfile)
  have hmove : ∀ middle, Filled disk t bytes middle →
      Ends (DiskAction.change fun disk => disk.rename temporary target) middle fun result after =>
        match result with
        | .ok _ => ∃ l, Replaced disk t target bytes l after
        | .error _ => ChangesOnly t disk after ∧ after.get? t ≠ some .directory := by
    intro middle hmiddle
    rw [DiskAction.ends_change]
    cases hrename : middle.rename temporary target with
    | ok after => exact hmiddle.rename hfile hlocate hrename
    | error e => exact ⟨hmiddle.changes, hmiddle.not_directory⟩
  unfold replace
  rw [ends_bind, DiskAction.ends_change, hwrite]
  dsimp only
  rw [ends_bind, DiskAction.ends_ask]
  generalize disk.putBytes t bytes = middle at hfilled
  rcases middle.exists? target with e | (_ | _)
  · exact ⟨hfilled.changes, hfilled.not_directory⟩
  · exact hmove middle hfilled
  · show Ends (DiskAction.change _ >>= fun _ => _) middle _
    rw [ends_bind, DiskAction.ends_change]
    cases hcopy : middle.copyMode target temporary with
    | error e => exact ⟨hfilled.changes, hfilled.not_directory⟩
    | ok next => exact hmove next (hfilled.copyMode ((hfilled.locate hfile).2 hlocate) hcopy)

/-! ## Writes -/

/-- A disk is like another, but for a file with the given bytes at the end of a path. -/
structure Written (disk : Disk) (path : Text) (bytes : List UInt8) (l : Location)
    (after : Disk) : Prop where
  /-- The path leads to the location of the file. -/
  locate : disk.locate path = .ok l
  /-- The file takes the place of no directory. -/
  place : disk.get? l ≠ some .directory
  /-- Nothing else has changed. -/
  changes : ChangesOnly l disk after
  /-- The file holds the bytes. -/
  file : ∃ mode, after.get? l = some (.file mode bytes)

/-- What was written can be read. -/
theorem Written.holdsAt {path : Text} {l : Location} {after : Disk}
    (h : Written disk path bytes l after) : after.HoldsAt path l bytes :=
  ⟨locate_of_keeps (h.changes.keepsDirectories h.place) h.locate, h.file⟩

/-- How a write ends: the file is written, or no entry is lost, and then there is nothing new
either, unless the path holds a null character. -/
def WriteEnds (disk : Disk) (path : Text) (bytes : List UInt8) (result : Except Error Unit)
    (after : Disk) : Prop :=
  match result with
  | .ok _ => ∃ l, Written disk path bytes l after
  | .error e => KeepsEntries disk after ∧
      (e ≠ .nullCharacter → after.workdir = disk.workdir ∧ ∀ l, after.get? l = disk.get? l)

theorem ends_writeDirect (world : World) (path : Path) (bytes : List UInt8) :
    Ends (writeDirect path bytes) world fun result after =>
      WriteEnds world.disk path.toText bytes result after.disk := by
  unfold writeDirect
  rw [Action.ends_onDiskOr, DiskAction.ends_change]
  cases hwrite : world.disk.writeFile path.toText bytes with
  | ok after =>
    obtain ⟨l, hlocate, hplace, rfl⟩ := writeFile_eq_ok_iff.1 hwrite
    have hl : l ≠ [] := ne_nil_of_get? hplace
    exact ⟨l, hlocate, hplace, changesOnly_putBytes _ hl bytes, _, get?_putBytes _ hl bytes⟩
  | error e => exact ⟨(Grows.refl world.disk).keepsEntries, fun _ => ⟨rfl, fun _ => rfl⟩⟩

/-- The temporary file of a failed write is removed. -/
theorem unlink_temporary {after : Disk} (hnone : disk.get? t = none)
    (hlocate : disk.locate temporary = .ok t) (hchanges : ChangesOnly t disk after)
    (hplace : after.get? t ≠ some .directory) :
    ∃ last, after.unlink temporary = .ok last ∧ last.workdir = disk.workdir ∧
      ∀ l, last.get? l = disk.get? l := by
  have ht : t ≠ [] := ne_nil_of_get? hplace
  have hkeeps : KeepsDirectories disk after := hchanges.keepsDirectories (by simp [hnone])
  refine ⟨after.erase t, ?_, hchanges.workdir, fun l => ?_⟩
  · rw [unlink, bind_eq_ok_iff]
    refine ⟨t, locate_of_keeps hkeeps hlocate, ?_⟩
    rcases hentry : after.get? t with _ | (_ | ⟨mode, bytes⟩)
    · rfl
    · exact absurd hentry hplace
    · rfl
  · rw [get?_erase after ht]
    split
    · rw [‹l = t›, hnone]
    · exact hchanges.elsewhere l ‹_›

/-- What replaces a file by way of a free location has written it. -/
theorem Replaced.written {after : Disk} {l : Location} {entry : Entry} (ht : t ≠ [])
    (hnone : disk.get? t = none) (hentry : entry ≠ .directory)
    (h : Replaced (disk.put t entry) t target bytes l after) :
    Written disk target bytes l after := by
  have hput := changesOnly_put disk ht entry
  have hplace : (disk.put t entry).get? t ≠ some .directory := by
    rw [get?_put disk ht, if_pos rfl]
    simpa using hentry
  refine ⟨locate_of_keeps (hput.symm.keepsDirectories hplace) h.locate, ?_, ⟨h.workdir, ?_⟩,
    h.file⟩
  · by_cases he : l = t
    · simp [he, hnone]
    · rw [← hput.elsewhere l he]
      exact h.place
  · intro m hm
    rw [h.elsewhere m hm]
    split
    · rw [‹m = t›, hnone]
    · exact hput.elsewhere m ‹_›

theorem ends_writeAtomic (world : World) (path : Path) (bytes : List UInt8) :
    Ends (writeAtomic path bytes) world fun result after =>
      WriteEnds world.disk path.toText bytes result after.disk := by
  unfold writeAtomic
  rw [ends_bind, Action.ends_onDiskOr]
  refine (DiskAction.ends_createTemporary world.disk path).mono ?_
  rintro (e | temporary) created hcreated
  · exact ⟨hcreated ▸ (Grows.refl _).keepsEntries, fun _ => hcreated ▸ ⟨rfl, fun _ => rfl⟩⟩
  obtain ⟨-, t, hlocate, hnone, rfl⟩ := hcreated
  have ht : t ≠ [] := @ne_nil_of_get? world.disk t (by simp [hnone])
  have hput := changesOnly_put world.disk ht (.file privateMode [])
  have hkeeps := hput.keepsDirectories (by simp [hnone])
  have hfile : (world.disk.put t (.file privateMode [])).get? t ≠ some .directory := by
    rw [get?_put _ ht, if_pos rfl]
    simp
  show Ends (Action.onDisk _ >>= _) _ _
  rw [ends_bind, Action.ends_onDisk]
  refine (ends_replace bytes (locate_of_keeps hkeeps hlocate) hfile).mono ?_
  rintro (fault | _) after hafter
  · obtain ⟨hchanges, hplace⟩ := hafter
    have hall := hput.trans hchanges
    cases fault with
    | nullCharacter => exact ⟨hall.keepsEntries hnone, fun h => absurd rfl h⟩
    | system e =>
      obtain ⟨last, hunlink, hworkdir, hsame⟩ := unlink_temporary hnone hlocate hall hplace
      show Ends (Action.onDisk _ >>= _) _ _
      rw [ends_bind, Action.ends_onDisk, DiskAction.ends_change]
      simp only [hunlink]
      exact ⟨(Grows.of_get? hworkdir hsame).keepsEntries, fun _ => ⟨hworkdir, hsame⟩⟩
  · obtain ⟨l, hreplaced⟩ := hafter
    exact ⟨l, hreplaced.written ht hnone (by simp)⟩

/-- How a write that first makes directories ends: on a disk that has grown, the file is written; or
no entry is lost. -/
def WriteEndsGrown (disk : Disk) (path : Text) (bytes : List UInt8) (result : Except Error Unit)
    (after : Disk) : Prop :=
  match result with
  | .ok _ => ∃ grown l, Grows disk grown ∧ Written grown path bytes l after
  | .error _ => KeepsEntries disk after

theorem WriteEnds.grown {path : Text} {result : Except Error Unit} {grown after : Disk}
    (h : WriteEnds grown path bytes result after) (hgrows : Grows disk grown) :
    WriteEndsGrown disk path bytes result after := by
  cases result with
  | error e => exact hgrows.keepsEntries.trans h.1
  | ok _ =>
    obtain ⟨l, hwritten⟩ := h
    exact ⟨grown, l, hgrows, hwritten⟩

theorem ends_store_grown (writer : Writer) (world : World) (path : Path) (bytes : List UInt8) :
    Ends (writer.store path bytes) world fun result after =>
      WriteEndsGrown world.disk path.toText bytes result after.disk := by
  unfold store
  rw [ends_bind, Action.ends_onDiskOr]
  refine (DiskAction.ends_makeDirectories world.disk path.parent).mono ?_
  rintro (e | _) grown hgrows
  · exact hgrows.keepsEntries
  · dsimp only [Except.mapError]
    split
    · exact (ends_writeAtomic _ path _).mono fun _ _ h => h.grown hgrows
    · exact (ends_writeDirect _ path _).mono fun _ _ h => h.grown hgrows

/-- A write is a check, and then the file is stored or opened in vain. -/
theorem write_eq (writer : Writer) (path : Path) (content : Points) (validate : Bool) :
    writer.write path content validate = (do
      Action.ofExcept (if validate then writer.check content else .ok ())
      match content.encodeUtf8 with
      | .ok bytes => writer.store path bytes
      | .error found => writer.abandon path found) := by
  cases validate <;> rfl

/-- A check that is not asked for passes. -/
theorem checked_eq_ok_iff {writer : Writer} {content : Points} {validate : Bool} :
    (if validate then writer.check content else .ok ()) = .ok () ↔
      (validate = true → writer.check content = .ok ()) := by
  cases validate <;> simp

/-- The bytes of a text are stored. -/
theorem write_points (writer : Writer) (path : Path) (content : Text) (validate : Bool) :
    writer.write path content.points validate = (do
      Action.ofExcept (if validate then writer.check content.points else .ok ())
      writer.store path content.encodeUtf8) := by
  rw [write_eq, content.encodeUtf8_points]

theorem ends_write (writer : Writer) (world : World) (path : Path) (content : Text)
    (validate : Bool) :
    Ends (writer.write path content.points validate) world fun result after =>
      WriteEndsGrown world.disk path.toText content.encodeUtf8 result after.disk := by
  rw [write_points, ends_bind, Action.ends_ofExcept]
  split
  · exact ends_store_grown writer world path _
  · exact (Grows.refl world.disk).keepsEntries

end Writer
end StubGraft
