import StubGraft.Proofs.Placement

/-!
# Writes as a whole

A write can be stopped by the check of its content, by each directory above its file, by its
temporary file and by the move of that.  Wherever it is stopped, no file has changed; and if it is
not, the file has its content and its old mode, whether it was written through a temporary file or
directly.

There is one exception.  A content with surrogates has no bytes, which is found out when a file has
been opened for it: a temporary one, which then stays, or the file itself, which is then empty.

* `Disk.modeOr` — the mode that a file keeps, or gets if it is new.
* `Writer.get?_of_place` — a written file with its mode.
* `Writer.LeavesEmpty` — what stays of a content without bytes.
* `Writer.AllOrNothing`, `Writer.write_allOrNothing` — how every write ends.
* `Writer.write_surrogate_default` — a file that is lost, and a temporary file that stays.
* `Writer.write_atomic_refines_direct` — what can be written through a temporary file can be written
  directly, and the disks are the same but for the mode of a new file.
-/

namespace StubGraft

open Disk

/-! ## Modes -/

namespace Disk

variable {a b disk : Disk} {l : Location} {path : Text}

/-- The mode of the file at a location, or another one if no file stands there. -/
def modeOr (disk : Disk) (l : Location) (other : Nat) : Nat :=
  match disk.get? l with
  | some (.file mode _) => mode
  | _ => other

theorem modeAt_eq_modeOr (disk : Disk) (l : Location) :
    disk.modeAt l = disk.modeOr l defaultMode :=
  rfl

theorem modeOr_of_none (h : disk.get? l = none) (other : Nat) : disk.modeOr l other = other := by
  rw [modeOr, h]

theorem modeOr_congr (h : b.get? l = a.get? l) (other : Nat) :
    b.modeOr l other = a.modeOr l other := by
  rw [modeOr, modeOr, h]

theorem modeOf_eq_modeOr {entry : Entry} (hl : disk.get? l = some entry)
    (hfile : entry ≠ .directory) (other : Nat) : modeOf entry = disk.modeOr l other := by
  cases entry with
  | directory => exact absurd rfl hfile
  | file mode bytes =>
    rw [modeOr, hl]
    rfl

/-- Nothing stands at the end of a path that leads somewhere and is said not to exist. -/
theorem get?_of_exists? (h : disk.exists? path = .ok false) (hlocate : disk.locate path = .ok l) :
    disk.get? l = none := by
  cases hl : disk.get? l with
  | none => rfl
  | some entry =>
    rw [exists?, entrySatisfies?, entryAt_eq_ok_iff.2 ⟨l, hlocate, hl⟩] at h
    exact absurd h (by simp)

/-- What is no directory on a disk that has grown stood there before. -/
theorem Grows.get?_eq (h : Grows a b) (hl : b.get? l ≠ some .directory) :
    b.get? l = a.get? l := by
  rcases h.entry l with hsame | ⟨-, hnew⟩
  · exact hsame
  · exact absurd hnew hl

end Disk

theorem DiskAction.returns_change {disk : Disk} {update : Disk → Except DiskFault Disk}
    {post : PUnit → Disk → Prop} :
    Returns (change update) disk post ↔ ∃ after, update disk = .ok after ∧ post ⟨⟩ after := by
  rw [Returns, ends_change]
  cases update disk with
  | error e => simp
  | ok after =>
    constructor
    · rintro ⟨_, -, hpost⟩
      exact ⟨after, rfl, hpost⟩
    · rintro ⟨_, hafter, hpost⟩
      exact ⟨⟨⟩, rfl, Except.ok.inj hafter ▸ hpost⟩

namespace Writer

open DiskAction

variable {disk filled ready after : Disk} {temporary target : Text} {t l : Location}
  {bytes : List UInt8} {mode : Nat}

/-! ## The mode of a file in place of another -/

/-- A disk is like another, but for a temporary file that can be moved: it holds the bytes and has
the mode of the file that it takes the place of. -/
structure Readied (disk : Disk) (t : Location) (target : Text) (bytes : List UInt8) (mode : Nat)
    (ready : Disk) : Prop where
  /-- Nothing else has changed. -/
  changes : ChangesOnly t disk ready
  /-- The temporary file holds the bytes. -/
  file : ready.get? t = some (.file mode bytes)
  /-- It has the mode of the file at the end of the path, and is private if there is none. -/
  mode_eq : ∀ l, ready.locate target = .ok l → ready.get? l ≠ some .directory →
    mode = disk.modeOr l privateMode

/-- Where nothing stands at the end of the path, the temporary file stays private. -/
theorem readied_of_absent (hchanges : ChangesOnly t disk filled)
    (hfile : filled.get? t = some (.file privateMode bytes))
    (habsent : filled.exists? target = .ok false) :
    Readied disk t target bytes privateMode filled := by
  refine ⟨hchanges, hfile, fun l hl _ => ?_⟩
  have hfree := get?_of_exists? habsent hl
  have hne : l ≠ t := by
    rintro rfl
    simp [hfile] at hfree
  rw [modeOr_of_none (by rw [← hchanges.elsewhere l hne, hfree])]

/-- Otherwise it takes the mode of what stands there. -/
theorem readied_of_copyMode (hnone : disk.get? t = none) (hchanges : ChangesOnly t disk filled)
    (hfile : filled.get? t = some (.file privateMode bytes))
    (hlocate : filled.locate temporary = .ok t)
    (hcopy : filled.copyMode target temporary = .ok ready) :
    ∃ mode, Readied disk t target bytes mode ready := by
  obtain ⟨entry, hentry, rfl⟩ := copyMode_eq_ok hcopy hlocate hfile
  obtain ⟨m, hm, hget⟩ := entryAt_eq_ok_iff.1 hentry
  have hplace : filled.get? t ≠ some .directory := by simp [hfile]
  have ht : t ≠ [] := ne_nil_of_get? hplace
  have hput := changesOnly_put filled ht (.file (modeOf entry) bytes)
  refine ⟨modeOf entry, hchanges.trans hput, by rw [get?_put filled ht, if_pos rfl], ?_⟩
  intro l hl hdirectory
  obtain rfl : m = l :=
    Except.ok.inj ((locate_of_keeps (hput.keepsDirectories hplace) hm).symm.trans hl)
  by_cases he : m = t
  · -- the path leads to the temporary file itself, where nothing stood before
    subst he
    obtain rfl : entry = .file privateMode bytes := Option.some.inj (hget.symm.trans hfile)
    exact (modeOr_of_none hnone privateMode).symm
  · rw [hput.elsewhere m he, hget] at hdirectory
    refine modeOf_eq_modeOr ?_ (by simpa using hdirectory) privateMode
    rw [← hchanges.elsewhere m he, hget]

/-- A file that was moved into place has the mode that was made ready for it. -/
theorem Readied.get?_of_rename (h : Readied disk t target bytes mode ready)
    (hnone : disk.get? t = none) (hlocate : disk.locate temporary = .ok t)
    (hrename : ready.rename temporary target = .ok after) (hl : disk.locate target = .ok l) :
    after.get? l = some (.file (disk.modeOr l privateMode) bytes) := by
  obtain ⟨t', m, entry, ht', hm, hentry, hplace, rfl⟩ := rename_eq_ok hrename
  have hkeeps := h.changes.keepsDirectories (by simp [hnone])
  obtain rfl : t' = t := Except.ok.inj (ht'.symm.trans (locate_of_keeps hkeeps hlocate))
  obtain rfl : entry = .file mode bytes := Option.some.inj (hentry.symm.trans h.file)
  obtain rfl : m = l := Except.ok.inj (hm.symm.trans (locate_of_keeps hkeeps hl))
  rw [get?_put _ (ne_nil_of_get? hplace), if_pos rfl, ← h.mode_eq m hm hplace]

/-- Before a new temporary file is moved it is filled and made ready. -/
theorem readied_of_replace (hnone : disk.get? t = none) (hlocate : disk.locate temporary = .ok t)
    (h : Returns (replace temporary target bytes) (disk.put t (.file privateMode []))
      fun _ last => last = after) :
    ∃ mode ready, Readied disk t target bytes mode ready ∧
      ready.rename temporary target = .ok after := by
  have ht : t ≠ [] := @ne_nil_of_get? disk t (by simp [hnone])
  have hput := changesOnly_put disk ht (.file privateMode [])
  unfold replace at h
  rw [returns_bind, returns_change] at h
  obtain ⟨filled, hwrite, h⟩ := h
  obtain ⟨t', ht', -, hfilled⟩ := writeFile_eq_ok_iff.1 hwrite
  obtain rfl : t' = t := Except.ok.inj
    (ht'.symm.trans (locate_of_keeps (hput.keepsDirectories (by simp [hnone])) hlocate))
  have hchanges : ChangesOnly t' disk filled := by
    rw [hfilled]
    exact hput.trans (changesOnly_putBytes _ ht bytes)
  have hfile : filled.get? t' = some (.file privateMode bytes) := by
    rw [hfilled, get?_putBytes _ ht, modeAt, get?_put disk ht, if_pos rfl]
  have hlocated := locate_of_keeps (hchanges.keepsDirectories (by simp [hnone])) hlocate
  rw [returns_bind, Returns, ends_ask] at h
  obtain ⟨there, hthere, h⟩ := h
  have hthere : filled.exists? target = .ok there := mapError_eq_ok_iff.1 hthere
  cases there with
  | false =>
    obtain ⟨_, hrename, rfl⟩ := returns_change.1 h
    exact ⟨privateMode, filled, readied_of_absent hchanges hfile hthere, hrename⟩
  | true =>
    obtain ⟨ready, hcopy, hmove⟩ := returns_change.1 (returns_bind.1 h)
    obtain ⟨_, hrename, rfl⟩ := returns_change.1 hmove
    obtain ⟨mode, hready⟩ := readied_of_copyMode hnone hchanges hfile hlocated hcopy
    exact ⟨mode, ready, hready, hrename⟩

/-- A file that takes the place of another by way of a temporary one has the mode of the other. -/
theorem get?_of_place_true {path : Path}
    (h : Returns (place true path bytes) disk fun _ last => last = after)
    (hl : disk.locate path.toText = .ok l) :
    after.get? l = some (.file (disk.modeOr l privateMode) bytes) := by
  unfold place at h
  rw [if_pos rfl, returns_bind] at h
  obtain ⟨_, _, hreplace, temporary, hcreated, rfl, rfl⟩ := h.exists_eq
  have hends := ends_createTemporary disk path
  rw [Ends, hcreated] at hends
  obtain ⟨-, t, hlocate, hnone, hput⟩ := hends
  rw [hput] at hreplace
  obtain ⟨mode, ready, hready, hrename⟩ := readied_of_replace hnone hlocate hreplace
  exact hready.get?_of_rename hnone hlocate hrename hl

/-- The mode of a new file: one that was a temporary file is private. -/
def newMode (atomic : Bool) : Nat := if atomic then privateMode else defaultMode

/-- A file that is put in its place keeps its mode. -/
theorem get?_of_place {atomic : Bool} {path : Path}
    (h : Returns (place atomic path bytes) disk fun _ last => last = after) :
    ∃ l, Written disk path.toText bytes l after ∧
      after.get? l = some (.file (disk.modeOr l (newMode atomic)) bytes) := by
  obtain ⟨l, hwritten⟩ := written_of_place h
  refine ⟨l, hwritten, ?_⟩
  cases atomic with
  | true => exact get?_of_place_true h hwritten.locate
  | false =>
    obtain ⟨_, hwrite, rfl⟩ := returns_change.1 h
    obtain ⟨m, hm, hplace, rfl⟩ := writeFile_eq_ok_iff.1 hwrite
    obtain rfl : m = l := Except.ok.inj (hm.symm.trans hwritten.locate)
    rw [get?_putBytes disk (ne_nil_of_get? hplace), modeAt_eq_modeOr]
    rfl

end Writer

/-! ## Null characters stop a write early -/

/-- A path with a null character has it in its name or above. -/
theorem Path.HasNull.parent_or_name {path : Path} (h : path.HasNull) :
    path.parent.HasNull ∨ '\x00' ∈ path.name := by
  obtain ⟨part, hpart, hnull⟩ := h
  have hne : path.parts ≠ [] := List.ne_nil_of_mem hpart
  rw [← List.dropLast_append_getLast hne, List.mem_append, List.mem_singleton] at hpart
  rcases hpart with habove | rfl
  · exact Or.inl ⟨part, habove, hnull⟩
  · refine Or.inr ?_
    rw [Path.name, List.getLast?_eq_some_getLast hne]
    exact hnull

namespace DiskAction

/-- A directory whose path holds a null character is not made. -/
theorem ends_tryMakeDirectory_null (disk : Disk) {path : Text} (h : path.contains '\x00' = true) :
    Ends (tryMakeDirectory path) disk fun result after =>
      result = .ok (some .nullCharacter) ∧ after = disk := by
  have hlocate : disk.locate path = .error .nullCharacter := if_pos h
  have hmake : disk.makeDirectory path = .error .nullCharacter := by
    rw [makeDirectory, hlocate]
    rfl
  unfold tryMakeDirectory
  rw [ends_bind, ends_get]
  dsimp only
  rw [hmake]
  exact ⟨rfl, rfl⟩

/-- Nor are those above it. -/
theorem ends_makeDirectories_null (disk : Disk) {path : Path} (h : path.HasNull) :
    Ends (makeDirectories path) disk fun result after =>
      result = .error .nullCharacter ∧ after = disk := by
  have htext := Path.contains_toText.2 h
  have hstop : ∀ {next : Option DiskFault → DiskAction Unit},
      next (some .nullCharacter) = throw .nullCharacter →
      Ends (tryMakeDirectory path.toText >>= next) disk fun result after =>
        result = .error .nullCharacter ∧ after = disk := by
    intro next hnext
    refine (ends_tryMakeDirectory_null disk htext).bind ?_ fun _ _ hafter => ?_
    · rintro fault middle ⟨hfault, rfl⟩
      obtain rfl := Except.ok.inj hfault
      rw [hnext]
      exact ⟨rfl, rfl⟩
    · exact absurd hafter.1 (by simp)
  obtain ⟨anchor, parts⟩ := path
  unfold makeDirectories
  cases hparts : parts.reverse with
  | nil =>
    obtain rfl : parts = [] := List.reverse_eq_nil_iff.1 hparts
    exact hstop rfl
  | cons part above =>
    obtain rfl : parts = (part :: above).reverse := by rw [← hparts, List.reverse_reverse]
    exact hstop rfl

/-- There is no temporary file beside a path whose name holds a null character. -/
theorem ends_createTemporary_name (disk : Disk) (path : Path) :
    Ends (createTemporary path) disk fun result _ =>
      ∀ temporary, result = .ok temporary → '\x00' ∉ path.name := by
  unfold createTemporary
  rw [ends_bind, ends_get]
  dsimp only
  rw [ends_bind, ends_change]
  cases h : disk.createFile (temporaryPath disk path) with
  | error fault => exact nofun
  | ok after =>
    obtain ⟨l, hlocate, -⟩ := createFile_eq_ok_iff.1 h
    have hclean := (locate_eq_ok_iff.1 hlocate).1
    intro _ _ hname
    have hmem : '\x00' ∈ temporaryPath disk path := by
      unfold temporaryPath appendName temporaryName
      split <;> simp [hname]
    exact absurd ((List.contains_iff_mem.2 hmem).symm.trans hclean) (by decide)

end DiskAction

namespace Writer

open DiskAction

theorem ends_writeDirect_null (world : World) (path : Path) (bytes : List UInt8) :
    Ends (writeDirect path bytes) world fun result after =>
      result = .error .nullCharacter → after.disk = world.disk := by
  unfold writeDirect
  rw [Action.ends_onDiskOr, ends_change]
  cases world.disk.writeFile path.toText bytes with
  | ok after => exact nofun
  | error fault => exact fun _ => rfl

/-- Below directories without null characters, a null character is met before there is a temporary
file. -/
theorem ends_writeAtomic_null (world : World) {path : Path} (bytes : List UInt8)
    (hparent : ¬ path.parent.HasNull) :
    Ends (writeAtomic path bytes) world fun result after =>
      result = .error .nullCharacter → after.disk = world.disk := by
  unfold writeAtomic
  rw [ends_bind, Action.ends_onDiskOr]
  refine ((ends_createTemporary world.disk path).and
    ((ends_createTemporary_null world.disk path).and
      (ends_createTemporary_name world.disk path))).mono ?_
  rintro (fault | temporary) created ⟨hcreated, htemporary, hname⟩
  · exact fun _ => hcreated
  have htarget : ¬ path.HasNull := fun h => h.parent_or_name.elim hparent (hname temporary rfl)
  show Ends (Action.onDisk _ >>= _) _ _
  rw [ends_bind, Action.ends_onDisk]
  refine (ends_replace_null created temporary path.toText bytes).mono ?_
  rintro ((_ | reason) | _) after hafter
  · rcases hafter rfl with hnull | hnull
    · exact absurd (hnull.symm.trans htemporary) (by decide)
    · exact absurd (Path.contains_toText.1 hnull) htarget
  · show Ends (Action.onDisk _ >>= _) _ _
    rw [ends_bind, Action.ends_onDisk]
    exact nofun
  · exact nofun

/-- A file that is not written leaves at most new directories above it, whatever the error. -/
theorem ends_store_error (writer : Writer) (world : World) (path : Path) (bytes : List UInt8) :
    Ends (writer.store path bytes) world fun result after =>
      ∀ e, result = .error e → GrowsAbove path.parent world.disk after.disk := by
  have hnull : Ends (writer.store path bytes) world fun result after =>
      result = .error .nullCharacter → GrowsAbove path.parent world.disk after.disk := by
    unfold store
    rw [ends_bind, Action.ends_onDiskOr]
    by_cases hparent : path.parent.HasNull
    · refine (ends_makeDirectories_null world.disk hparent).mono ?_
      rintro _ _ ⟨rfl, rfl⟩
      exact fun _ => .refl _ _
    · refine (ends_makeDirectories_along world.disk path.parent).mono ?_
      rintro (fault | _) grown ⟨hgrows, -⟩
      · exact fun _ => hgrows
      · dsimp only [Except.mapError]
        split
        · refine (ends_writeAtomic_null _ bytes hparent).mono fun _ _ h he => ?_
          rw [h he]
          exact hgrows
        · refine (ends_writeDirect_null _ path bytes).mono fun _ _ h he => ?_
          rw [h he]
          exact hgrows
  refine ((ends_store writer world path bytes).and hnull).mono ?_
  rintro _ after ⟨hends, hnull⟩ e rfl
  rcases hends with ⟨-, hgrows⟩ | ⟨rfl, -⟩
  · exact hgrows
  · exact hnull rfl

/-! ## Contents without bytes -/

/-- What stays of a content without bytes: an empty temporary file beside a file that is as it was;
or the file itself, emptied.  All other entries stay, and all else that is new are directories above
the file. -/
def LeavesEmpty (writer : Writer) (path : Path) (before after : Disk) : Prop :=
  if writer.atomic then
    ∃ grown t, GrowsAbove path.parent before grown ∧
      grown.locate (temporaryPath grown path) = .ok t ∧ grown.get? t = none ∧
      ChangesOnly t grown after ∧ after.get? t = some (.file 0o600 [])
  else
    ∃ l, Stores path [] l before after ∧
      after.get? l = some (.file (before.modeOr l 0o644) [])

/-- How a write of a content without bytes ends: the system refuses, and then there are at most new
directories above the file; or a file has been opened in vain. -/
def AbandonEnds (writer : Writer) (path : Path) (found : Surrogates) (before : Disk)
    (result : Except Error Unit) (after : Disk) : Prop :=
  (∃ e, result = .error e ∧ e.RefusesOrNull before.workdir path ∧
    GrowsAbove path.parent before after) ∨
  result = .error (.contentUnencodable found) ∧ writer.LeavesEmpty path before after

/-- Opening a file that cannot be opened changes nothing; else it is empty. -/
theorem ends_openFirst (writer : Writer) (world : World) {path : Path} {before : Disk}
    (hgrows : GrowsAbove path.parent before world.disk) :
    Ends (writer.openFirst path) world fun result after =>
      match result with
      | .ok _ => writer.LeavesEmpty path before after.disk
      | .error e => e.RefusesOrNull world.disk.workdir path ∧ after.disk = world.disk := by
  unfold openFirst LeavesEmpty
  cases writer.atomic with
  | true =>
    simp only [if_true]
    rw [ends_bind, Action.ends_onDiskOr]
    refine ((ends_createTemporary world.disk path).and
      (ends_createTemporary_null world.disk path)).mono ?_
    rintro (fault | temporary) created ⟨hcreated, hnull⟩
    · exact ⟨refusesOrNull_refusal (fun e => ⟨e, Or.inr (Or.inl rfl)⟩) hnull, hcreated⟩
    · -- the empty file stays under the temporary name; the visitor itself is not opened
      obtain ⟨rfl, t, hlocate, hnone, rfl⟩ := hcreated
      have ht : t ≠ [] := @ne_nil_of_get? world.disk t (by simp [hnone])
      refine ⟨world.disk, t, hgrows, hlocate, hnone, changesOnly_put _ ht _, ?_⟩
      show (world.disk.put t (.file privateMode [])).get? t = _
      rw [get?_put world.disk ht, if_pos rfl]
      rfl
  | false =>
    simp only [Bool.false_eq_true, if_false]
    unfold writeDirect
    rw [Action.ends_onDiskOr, ends_change]
    cases hwrite : world.disk.writeFile path.toText [] with
    | error fault =>
      refine ⟨refusesOrNull_refusal (fun e => ⟨e, Or.inr (Or.inr rfl)⟩) ?_, rfl⟩
      rintro rfl
      exact Or.inl (Path.contains_toText.1 (contains_of_writeFile hwrite))
    | ok after =>
      have hplace : Returns (place false path []) world.disk fun _ last => last = after :=
        returns_change.2 ⟨after, hwrite, rfl⟩
      obtain ⟨l, hwritten, hfile⟩ := get?_of_place hplace
      refine ⟨l, hwritten.stores hgrows, hfile.trans ?_⟩
      rw [modeOr_congr (hgrows.grows.get?_eq hwritten.place)]
      rfl

theorem ends_abandon (writer : Writer) (world : World) (path : Path) (found : Surrogates) :
    Ends (writer.abandon path found) world fun result after =>
      writer.AbandonEnds path found world.disk result after.disk := by
  unfold abandon
  rw [ends_bind, Action.ends_onDiskOr]
  refine (ends_makeDirectories_along world.disk path.parent).mono ?_
  rintro (fault | _) grown ⟨hgrows, hnull⟩
  · refine Or.inl ⟨_, rfl, refusesOrNull_refusal (fun e => ⟨e, Or.inl rfl⟩) ?_, hgrows⟩
    rintro rfl
    exact Or.inl (hnull rfl).of_parent
  · dsimp only [Except.mapError]
    rw [ends_bind]
    refine (ends_openFirst writer _ hgrows).mono ?_
    rintro (e | _) after hafter
    · obtain ⟨hrefuses, hsame⟩ := hafter
      rw [hgrows.workdir] at hrefuses
      exact Or.inl ⟨e, rfl, hrefuses, hsame ▸ hgrows⟩
    · exact Or.inr ⟨rfl, hafter⟩

/-! ## All or nothing -/

/-- A write ends with its file written and nothing else changed, or with no file changed at all,
unless its content has no bytes. -/
structure AllOrNothing (writer : Writer) (path : Path) (content : Points) (validate : Bool)
    (before : World) (result : Except Error Unit) (after : World) : Prop where
  /-- It works on the disk alone. -/
  quiet : after = { before with disk := after.disk }
  /-- If it returns, its file holds the content, with the mode that it had or that of a new file.
  All other entries stay, and all that is new are directories above the file. -/
  returned : result = .ok () → ∃ bytes l, content.encodeUtf8 = .ok bytes ∧
    Stores path bytes l before.disk after.disk ∧
    after.disk.get? l = some (.file
      (before.disk.modeOr l (if writer.atomic then 0o600 else 0o644)) bytes)
  /-- If it fails with a content that has bytes, all entries stay, and all that is new are
  directories above the file. -/
  raised : ∀ e bytes, result = .error e → content.encodeUtf8 = .ok bytes →
    GrowsAbove path.parent before.disk after.disk
  /-- If the content does not pass its check, there is nothing new. -/
  rejected : ∀ e, validate = true → writer.check content = .error e →
    result = .error e ∧ after = before
  /-- If it passes but has no bytes, the write fails as above, or with a file that is left empty. -/
  abandoned : ∀ found, content.encodeUtf8 = .error found →
    (validate = true → writer.check content = .ok ()) →
    writer.AbandonEnds path found before.disk result after.disk

variable {writer : Writer} {path : Path} {content : Points} {validate : Bool} {world last : World}
  {bytes : List UInt8}

/-- The disk between the two halves of a write that returns: with the directories above the file,
and without the file. -/
theorem grown_of_write
    (h : Returns (writer.write path content validate) world fun _ after => after = last) :
    ∃ bytes grown, content.encodeUtf8 = .ok bytes ∧ GrowsAbove path.parent world.disk grown ∧
      Returns (makeDirectories path.parent) world.disk (fun _ disk => disk = grown) ∧
      Returns (place writer.atomic path bytes) grown fun _ disk =>
        { world with disk := disk } = last := by
  obtain ⟨-, bytes, hbytes, hmake⟩ := returns_write.1 h
  obtain ⟨_, grown, hplace, hgrown⟩ := hmake.exists_eq
  have hdisk := hgrown.mono fun _ _ hafter => hafter.2
  refine ⟨bytes, grown, hbytes, ?_, hdisk, hplace⟩
  obtain ⟨_, -, hgrown⟩ := hdisk
  have halong := ends_makeDirectories_along world.disk path.parent
  rw [Ends, hgrown] at halong
  exact halong.1

/-- A write that returns has stored its file, with the mode of the one before. -/
theorem stores_of_write
    (h : Returns (writer.write path content validate) world fun _ after => after = last) :
    ∃ bytes l, content.encodeUtf8 = .ok bytes ∧ Stores path bytes l world.disk last.disk ∧
      last.disk.get? l = some (.file (world.disk.modeOr l (newMode writer.atomic)) bytes) := by
  obtain ⟨bytes, grown, hbytes, hgrows, -, hplace⟩ := grown_of_write h
  obtain ⟨l, hwritten, hfile⟩ := get?_of_place (hplace.mono fun _ _ hlast =>
    congrArg World.disk hlast)
  refine ⟨bytes, l, hbytes, hwritten.stores hgrows, ?_⟩
  rw [hfile, modeOr_congr (hgrows.grows.get?_eq hwritten.place)]

/-- A content that does not pass its check stops a write at once. -/
theorem ends_write_of_rejected {e : Error} (hvalidate : validate = true)
    (hcheck : writer.check content = .error e) :
    Ends (writer.write path content validate) world fun result after =>
      result = .error e ∧ after = world := by
  rw [write_eq, ends_bind, Action.ends_ofExcept, if_pos hvalidate, hcheck]
  exact ⟨rfl, rfl⟩

theorem ends_write_of_bytes {post : Except Error Unit → World → Prop}
    (hpasses : validate = true → writer.check content = .ok ())
    (hbytes : content.encodeUtf8 = .ok bytes) :
    Ends (writer.write path content validate) world post ↔
      Ends (writer.store path bytes) world post := by
  rw [write_eq, ends_bind, Action.ends_ofExcept, checked_eq_ok_iff.2 hpasses, hbytes]

theorem ends_write_of_surrogates {post : Except Error Unit → World → Prop} {found : Surrogates}
    (hpasses : validate = true → writer.check content = .ok ())
    (hfound : content.encodeUtf8 = .error found) :
    Ends (writer.write path content validate) world post ↔
      Ends (writer.abandon path found) world post := by
  rw [write_eq, ends_bind, Action.ends_ofExcept, checked_eq_ok_iff.2 hpasses, hfound]

/-- Every write of a content that has bytes is all or nothing: for every disk, path and check, with
or without a temporary file.  Without bytes, a content that passes its check leaves an empty file
unless the system refuses to open one. -/
theorem write_allOrNothing (writer : Writer) (path : Path) (content : Points) (validate : Bool)
    (world : World) :
    Ends (writer.write path content validate) world
      (writer.AllOrNothing path content validate world) := by
  refine ⟨diskOnly_write writer path content validate world,
    fun hresult => stores_of_write ⟨(), hresult, rfl⟩, fun e bytes hresult hbytes => ?_,
    fun e hvalidate hcheck => ends_write_of_rejected hvalidate hcheck,
    fun found hfound hpasses => ?_⟩
  · by_cases hpasses : validate = true → writer.check content = .ok ()
    · have hstore := ends_store_error writer world path bytes
      rw [← ends_write_of_bytes hpasses hbytes] at hstore
      exact hstore e hresult
    · obtain ⟨hvalidate, hfails⟩ := Classical.not_imp.1 hpasses
      cases hcheck : writer.check content with
      | ok _ => exact absurd hcheck hfails
      | error e' =>
        have hsame : ((writer.write path content validate).run world).2 = world :=
          (ends_write_of_rejected hvalidate hcheck).2
        rw [hsame]
        exact .refl _ _
  · have habandon := ends_abandon writer world path found
    rw [← ends_write_of_surrogates hpasses hfound] at habandon
    exact habandon

/-- A surrogate is to be written over a file.  Written directly, the file is empty afterwards;
through a temporary file it stays, but so does the temporary file. -/
theorem write_surrogate_default :
    let path := Path.ofText (Text.lit "new.js")
    let l := [Text.lit "new.js"]
    let t := [temporaryName (Text.lit "new.js") (tag 0)]
    let check := fun content : Points => checkBalanced content.chars
    let world := World.ofDisk ⟨[], [(l, .file 0o755 (Text.lit "kept").encodeUtf8)]⟩
    let direct := ((Writer.mk check false).write path [.surrogate 0] true).run world
    let atomic := ((Writer.mk check true).write path [.surrogate 0] true).run world
    (direct.1.isOk = false ∧ direct.2.disk.get? l = some (.file 0o755 [])) ∧
    (atomic.1.isOk = false ∧ atomic.2.disk.get? l = world.disk.get? l ∧
      world.disk.get? t = none ∧ atomic.2.disk.get? t = some (.file 0o600 [])) := by
  decide +kernel

/-! ## With and without a temporary file -/

/-- Two disks that a write of the given bytes leaves are the same, but for the mode of a file where
nothing stood before: it is private on the first of them. -/
structure SameButNew (before : Disk) (l : Location) (bytes : List UInt8) (a b : Disk) : Prop where
  /-- The working directory is the same. -/
  workdir : b.workdir = a.workdir
  /-- The same stands at all other locations. -/
  elsewhere : ∀ m, m ≠ l → b.get? m = a.get? m
  /-- A file that was there has the same bytes and the same mode. -/
  known : before.get? l ≠ none → b.get? l = a.get? l
  /-- A new file has the same bytes. -/
  new : before.get? l = none →
    a.get? l = some (.file 0o600 bytes) ∧ b.get? l = some (.file 0o644 bytes)

/-- A file that keeps its mode, or gets the mode of its kind of write if it is new. -/
theorem sameButNew_of_get? {before a b : Disk} {l : Location} {bytes : List UInt8}
    (hplace : before.get? l ≠ some .directory) (hworkdir : b.workdir = a.workdir)
    (helsewhere : ∀ m, m ≠ l → b.get? m = a.get? m)
    (ha : a.get? l = some (.file (before.modeOr l (newMode true)) bytes))
    (hb : b.get? l = some (.file (before.modeOr l (newMode false)) bytes)) :
    SameButNew before l bytes a b := by
  refine ⟨hworkdir, helsewhere, fun hknown => ?_, fun hnone => ?_⟩
  · rcases hentry : before.get? l with _ | (_ | ⟨mode, old⟩)
    · exact absurd hentry hknown
    · exact absurd hentry hplace
    · rw [ha, hb, modeOr, modeOr, hentry]
  · rw [modeOr_of_none hnone] at ha hb
    exact ⟨ha, hb⟩

/-- What can be put in its place through a temporary file can be put there directly. -/
theorem returns_place_false {atomic : Bool} {bytes : List UInt8} {disk after : Disk}
    {post : Unit → Disk → Prop}
    (h : Returns (place atomic path bytes) disk fun _ last => last = after)
    (hpost : ∀ direct, Returns (place false path bytes) disk (fun _ last => last = direct) →
      post () direct) :
    Returns (place false path bytes) disk post := by
  obtain ⟨l, hwritten⟩ := written_of_place h
  have hwrite : disk.writeFile path.toText bytes = .ok (disk.putBytes l bytes) :=
    writeFile_eq_ok_iff.2 ⟨l, hwritten.locate, hwritten.place, rfl⟩
  exact returns_change.2 ⟨_, hwrite, hpost _ (returns_change.2 ⟨_, hwrite, rfl⟩)⟩

/-- If a write through a temporary file returns, so does a direct one with the same check, and the
disks are the same but for the mode of a new file at the end of the path. -/
theorem write_atomic_refines_direct (check : Points → Except Error Unit) (path : Path)
    (content : Points) (validate : Bool) (world after : World)
    (h : Returns ((Writer.mk check true).write path content validate) world
      fun _ last => last = after) :
    Returns ((Writer.mk check false).write path content validate) world fun _ direct =>
      direct = { after with disk := direct.disk } ∧
      ∃ bytes l, content.encodeUtf8 = .ok bytes ∧ after.disk.locate path.toText = .ok l ∧
        SameButNew world.disk l bytes after.disk direct.disk := by
  obtain ⟨bytes, grown, hbytes, hgrows, hmake, hplace⟩ := grown_of_write h
  have hatomic : Returns (place true path bytes) grown fun _ disk => disk = after.disk :=
    hplace.mono fun _ _ hlast => congrArg World.disk hlast
  obtain ⟨_, -, hafter⟩ := hplace
  refine returns_write.2 ⟨(returns_write.1 h).1, bytes, hbytes, hmake.mono ?_⟩
  rintro _ _ rfl
  refine returns_place_false hatomic fun direct hdirect => ⟨by rw [← hafter], bytes, ?_⟩
  obtain ⟨l, hwritten, hfile⟩ := get?_of_place hatomic
  obtain ⟨m, hwritten', hfile'⟩ := get?_of_place hdirect
  obtain rfl : m = l := Except.ok.inj (hwritten'.locate.symm.trans hwritten.locate)
  have hsame := hgrows.grows.get?_eq hwritten.place
  refine ⟨m, hbytes, hwritten.holdsAt.locate, ?_⟩
  refine sameButNew_of_get? (hsame ▸ hwritten.place) ?_ ?_ ?_ ?_
  · exact hwritten'.changes.workdir.trans hwritten.changes.workdir.symm
  · intro n hn
    rw [hwritten.changes.elsewhere n hn]
    exact hwritten'.changes.elsewhere n hn
  · rw [hfile, modeOr_congr hsame]
  · rw [hfile', modeOr_congr hsame]

/-- A new file in a new folder is private exactly if it was a temporary file. -/
theorem write_atomic_refines_direct_newFolder :
    let path := Path.ofText (Text.lit "out/new.js")
    let text := Text.lit "V.a = function(ctx) \x7b\n\x7d;"
    let check := fun content : Points => checkBalanced content.chars
    let world := World.ofDisk ⟨[], [([Text.lit "old.js"], .file 0o755 text.encodeUtf8)]⟩
    let after := (((Writer.mk check true).write path text.points true).run world).2
    Returns ((Writer.mk check true).write path text.points true) world
      (fun _ last => last = after) ∧
    world.disk.get? [Text.lit "out", Text.lit "new.js"] = none ∧
    Returns ((Writer.mk check false).write path text.points true) world fun _ direct =>
      direct = { after with disk := direct.disk } ∧
      ∃ bytes l, text.points.encodeUtf8 = .ok bytes ∧ after.disk.locate path.toText = .ok l ∧
        SameButNew world.disk l bytes after.disk direct.disk := by
  intro path text check world after
  have hreturns : Returns ((Writer.mk check true).write path text.points true) world
      fun _ last => last = after := ⟨(), by decide +kernel, rfl⟩
  exact ⟨hreturns, by decide +kernel,
    write_atomic_refines_direct check path text.points true world after hreturns⟩

end Writer
end StubGraft
