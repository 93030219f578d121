import StubGraft.Proofs.Courses

/-!
# Where a write puts things

A write may have to make the directories above its file, and it may be refused at every step.  This
file says which entries are new in the end, where they stand, and which errors there can be.

* `Path.MeetsNull` — the only paths on which a write ends in an error that is not reported.
* `Disk.GrowsAbove` — all that is new are directories along a path.
* `Disk.Stores` — a file is written, and all that is new beside it are directories above it.
* `Writer.ends_write_places` — a whole write.
-/

namespace StubGraft

open Disk

/-! ## Null characters in paths -/

theorem Text.mem_join {sep : Text} {c : Char} (hsep : c ∉ sep) {parts : List Text} :
    c ∈ Text.join sep parts ↔ ∃ part ∈ parts, c ∈ part := by
  fun_induction Text.join sep parts with
  | case1 => simp
  | case2 part => simp
  | case3 part more _ ih =>
    rw [List.mem_append, List.mem_append, ih, List.exists_mem_cons_iff]
    simp [hsep]

namespace Path

/-- A part of the path holds a null character. -/
def HasNull (path : Path) : Prop := ∃ part ∈ path.parts, '\x00' ∈ part

/-- The path holds a null character or, if it starts there, the working directory does. -/
def MeetsNull (workdir : Location) (path : Path) : Prop :=
  path.HasNull ∨ path.anchor = .here ∧ ∃ name ∈ workdir, '\x00' ∈ name

theorem mem_toText {path : Path} {c : Char} (hdot : c ≠ '.') (hslash : c ≠ '/') :
    c ∈ path.toText ↔ ∃ part ∈ path.parts, c ∈ part := by
  have hjoin : c ∈ Text.join ['/'] path.parts ↔ ∃ part ∈ path.parts, c ∈ part :=
    Text.mem_join (by simpa using hslash)
  have hanchor : c ∉ path.anchor.toText := by cases path.anchor <;> simp [Anchor.toText, hslash]
  unfold toText
  split
  · rename_i hparts
    simp [hparts, hdot]
  · rw [List.mem_append, hjoin]
    simp [hanchor]

/-- The text of a path holds a null character exactly if one of its parts does. -/
theorem contains_toText {path : Path} : path.toText.contains '\x00' = true ↔ path.HasNull := by
  rw [List.contains_iff_mem]
  exact mem_toText (by decide) (by decide)

theorem HasNull.of_parent {path : Path} (h : path.parent.HasNull) : path.HasNull := by
  obtain ⟨part, hpart, hnull⟩ := h
  exact ⟨part, path.parts.dropLast_subset hpart, hnull⟩

theorem mem_descend {start parts : List Text} {name : Text} (h : name ∈ descend start parts) :
    name ∈ start ∨ name ∈ parts := by
  induction parts generalizing start with
  | nil => exact Or.inl h
  | cons part parts ih =>
    rcases ih h with hstart | hparts
    · dsimp only at hstart
      split at hstart
      · exact Or.inl (start.dropLast_subset hstart)
      · rcases List.mem_append.1 hstart with hstart | hpart
        · exact Or.inl hstart
        · exact Or.inr (List.mem_singleton.1 hpart ▸ List.mem_cons_self)
    · exact Or.inr (List.mem_cons_of_mem part hparts)

end Path

namespace DiskAction

theorem not_mem_tag (n : Nat) : '\x00' ∉ tag n := by
  intro h
  obtain ⟨place, -, hchar⟩ := List.mem_map.1 h
  have halphabet : '\x00' ∉ tagAlphabet := by decide +kernel
  rw [List.getD_eq_getElem?_getD] at hchar
  cases hget : tagAlphabet[n / Nat.pow tagAlphabet.length place % tagAlphabet.length]? with
  | none =>
    rw [hget] at hchar
    exact absurd hchar (by decide)
  | some c =>
    rw [hget] at hchar
    obtain rfl : c = '\x00' := hchar
    exact halphabet (List.mem_of_getElem? hget)

theorem mem_appendName {path name : Text} (h : '\x00' ∈ appendName path name) :
    '\x00' ∈ path ∨ '\x00' ∈ name := by
  unfold appendName at h
  split at h
  · exact List.mem_append.1 h
  · rcases List.mem_append.1 h with h | h
    · exact Or.inl h
    · exact Or.inr (by simpa using h)

theorem mem_temporaryName {name : Text} {n : Nat} (h : '\x00' ∈ temporaryName name (tag n)) :
    '\x00' ∈ name := by
  have hend : '\x00' ∉ Text.lit ".tmp" := by decide
  have htag := not_mem_tag n
  simpa [temporaryName, hend, htag] using h

/-- A temporary path holds a null character only if its path meets one. -/
theorem meetsNull_of_temporaryPath {disk : Disk} {path : Path}
    (h : '\x00' ∈ temporaryPath disk path) : path.MeetsNull disk.workdir := by
  rcases mem_appendName h with habsolute | hname
  · unfold absoluteText at habsolute
    rw [Path.mem_toText (by decide) (by decide)] at habsolute
    obtain ⟨part, hpart, hnull⟩ := habsolute
    rcases Path.mem_descend hpart with hstart | hparts
    · split at hstart
      · exact Or.inr ⟨‹_›, part, hstart, hnull⟩
      · simp at hstart
    · exact Or.inl (Path.HasNull.of_parent ⟨part, hparts, hnull⟩)
  · have hlast := mem_temporaryName hname
    rw [Path.name] at hlast
    cases hparts : path.parts.getLast? with
    | none => simp [hparts] at hlast
    | some part =>
      rw [hparts] at hlast
      exact Or.inl ⟨part, List.mem_of_getLast? hparts, hlast⟩

end DiskAction

/-! ## Operations on paths without null characters -/

namespace Disk

variable {disk : Disk} {path : Text}

theorem contains_of_locate (h : disk.locate path = .error .nullCharacter) :
    path.contains '\x00' = true := by
  by_contra hnull
  rw [locate, if_neg hnull] at h
  split at h <;> simp [refuse] at h

theorem contains_of_locate_bind {α : Type} {next : Location → Except DiskFault α}
    (h : (disk.locate path >>= next) = .error .nullCharacter)
    (hnext : ∀ l, next l ≠ .error .nullCharacter) : path.contains '\x00' = true := by
  rcases bind_eq_error_iff.1 h with h | ⟨l, -, h⟩
  · exact contains_of_locate h
  · exact absurd h (hnext l)

theorem contains_of_entryAt (h : disk.entryAt path = .error .nullCharacter) :
    path.contains '\x00' = true :=
  contains_of_locate_bind h fun l => by split <;> simp [refuse, pure, Except.pure]

theorem contains_of_readBytes (h : disk.readBytes path = .error .nullCharacter) :
    path.contains '\x00' = true := by
  rcases bind_eq_error_iff.1 h with h | ⟨entry, -, h⟩
  · exact contains_of_entryAt h
  · split at h <;> simp [refuse, pure, Except.pure] at h

theorem contains_of_writeFile {bytes : List UInt8}
    (h : disk.writeFile path bytes = .error .nullCharacter) : path.contains '\x00' = true :=
  contains_of_locate_bind h fun l => by split <;> simp [refuse, pure, Except.pure]

theorem contains_of_makeDirectory (h : disk.makeDirectory path = .error .nullCharacter) :
    path.contains '\x00' = true :=
  contains_of_locate_bind h fun l => by split <;> simp [refuse, pure, Except.pure]

theorem contains_of_createFile (h : disk.createFile path = .error .nullCharacter) :
    path.contains '\x00' = true :=
  contains_of_locate_bind h fun l => by split <;> simp [refuse, pure, Except.pure]

theorem contains_of_copyMode {target : Text}
    (h : disk.copyMode path target = .error .nullCharacter) :
    path.contains '\x00' = true ∨ target.contains '\x00' = true := by
  rw [copyMode, bind_eq_error_iff] at h
  rcases h with h | ⟨entry, -, h⟩
  · exact Or.inl (contains_of_entryAt h)
  rcases bind_eq_error_iff.1 h with h | ⟨l, -, h⟩
  · exact Or.inr (contains_of_locate h)
  rcases bind_eq_error_iff.1 h with h | ⟨old, -, h⟩
  · exact Or.inr (contains_of_entryAt h)
  · split at h <;> simp [pure, Except.pure] at h

theorem contains_of_rename {target : Text}
    (h : disk.rename path target = .error .nullCharacter) :
    path.contains '\x00' = true ∨ target.contains '\x00' = true := by
  by_contra hnull
  unfold rename at h
  rw [if_neg hnull] at h
  split at h
  · simp at h
  · simp at h
  · split at h
    · simp at h
    · split at h <;> simp [pure, Except.pure] at h

end Disk

/-! ## Directories along a path -/

/-- A location is where the path leads, or one of the paths above it. -/
def Disk.LeadsAlong (disk : Disk) (path : Path) (l : Location) : Prop :=
  ∃ parts, parts <+: path.parts ∧ disk.locate (Path.mk path.anchor parts).toText = .ok l

/-- One disk has directories along a path where another with the same working directory has
nothing. -/
structure Disk.GrowsAbove (path : Path) (a b : Disk) : Prop where
  /-- The working directory is the same. -/
  workdir : b.workdir = a.workdir
  /-- What stood somewhere stays, and what is new is a directory along the path. -/
  entry : ∀ l, b.get? l = a.get? l ∨
    a.get? l = none ∧ b.get? l = some .directory ∧ b.LeadsAlong path l

namespace Disk

variable {a b c : Disk} {path : Path}

theorem LeadsAlong.of_keeps {l : Location} (h : a.LeadsAlong path l)
    (hkeeps : KeepsDirectories a b) :
    b.LeadsAlong path l := by
  obtain ⟨parts, habove, hlocate⟩ := h
  exact ⟨parts, habove, locate_of_keeps hkeeps hlocate⟩

theorem GrowsAbove.refl (path : Path) (a : Disk) : GrowsAbove path a a :=
  ⟨rfl, fun _ => Or.inl rfl⟩

theorem GrowsAbove.grows (h : GrowsAbove path a b) : Grows a b := by
  refine ⟨h.workdir, fun l => ?_⟩
  rcases h.entry l with hl | ⟨hnone, hl, -⟩
  · exact Or.inl hl
  · exact Or.inr ⟨hnone, hl⟩

theorem GrowsAbove.trans (h : GrowsAbove path a b) (h' : GrowsAbove path b c) :
    GrowsAbove path a c := by
  refine ⟨h'.workdir.trans h.workdir, fun l => ?_⟩
  rcases h.entry l with hl | ⟨hnone, hl, halong⟩
  · rw [← hl]
    exact h'.entry l
  · have hlater := h'.grows.get?_of_some hl
    exact Or.inr ⟨hnone, hlater, halong.of_keeps h'.grows.keepsDirectories⟩

/-- What is new along a path is new along every path below it. -/
theorem GrowsAbove.of_prefix {anchor : Anchor} {parts more : List Text}
    (h : GrowsAbove ⟨anchor, parts⟩ a b) (habove : parts <+: more) :
    GrowsAbove ⟨anchor, more⟩ a b := by
  refine ⟨h.workdir, fun l => ?_⟩
  rcases h.entry l with hl | ⟨hnone, hl, some, hsome, hlocate⟩
  · exact Or.inl hl
  · exact Or.inr ⟨hnone, hl, some, hsome.trans habove, hlocate⟩

/-- A new directory at the end of a path. -/
theorem growsAbove_makeDirectory (h : a.makeDirectory path.toText = .ok b) :
    GrowsAbove path a b := by
  have hgrows := DiskAction.grows_makeDirectory h
  rw [makeDirectory, bind_eq_ok_iff] at h
  obtain ⟨l, hlocate, h⟩ := h
  cases hentry : a.get? l with
  | some entry => simp [hentry, refuse] at h
  | none =>
    have hl : l ≠ [] := @ne_nil_of_get? a l (by simp [hentry])
    obtain rfl : a.put l .directory = b := by
      simpa [hentry, pure, Except.pure] using h
    refine ⟨rfl, fun m => ?_⟩
    rw [get?_put a hl]
    split
    · rename_i hm
      have hafter := locate_of_keeps hgrows.keepsDirectories hlocate
      exact Or.inr ⟨hm ▸ hentry, rfl, path.parts, List.prefix_refl _, hm ▸ hafter⟩
    · exact Or.inl rfl

end Disk

namespace DiskAction

/-- Trying to make a directory adds at most that directory. -/
theorem ends_tryMakeDirectory_along (disk : Disk) (path : Path) :
    Ends (tryMakeDirectory path.toText) disk fun result after =>
      GrowsAbove path disk after ∧
      match result with
      | .ok fault => fault = some .nullCharacter → path.HasNull
      | .error _ => False := by
  unfold tryMakeDirectory
  rw [ends_bind, ends_get]
  dsimp only
  cases h : disk.makeDirectory path.toText with
  | ok after => exact ⟨growsAbove_makeDirectory h, nofun⟩
  | error fault =>
    refine ⟨.refl path disk, fun hnull => ?_⟩
    rw [Option.some.inj hnull] at h
    exact Path.contains_toText.1 (contains_of_makeDirectory h)

theorem ends_unlessDirectory_system (disk : Disk) (path : Text) (e : SystemError) :
    Ends (unlessDirectory path e) disk fun result after =>
      after = disk ∧ result ≠ .error .nullCharacter := by
  unfold unlessDirectory
  rw [ends_bind, ends_ask]
  rcases disk.isDirectory? path with e' | (_ | _)
  · exact ⟨rfl, nofun⟩
  · exact ⟨rfl, nofun⟩
  · exact ⟨rfl, nofun⟩

/-- Making a directory and those above it adds directories along the path. -/
def MakesAlong (path : Path) (disk : Disk) (result : Except DiskFault Unit) (after : Disk) : Prop :=
  GrowsAbove path disk after ∧ (result = .error .nullCharacter → path.HasNull)

theorem makesAlong_ok {path : Path} {disk after : Disk} (h : GrowsAbove path disk after) :
    MakesAlong path disk (.ok ()) after :=
  ⟨h, by simp⟩

theorem ends_makeLastDirectory_along (disk : Disk) (path : Path) :
    Ends (makeLastDirectory path.toText) disk (MakesAlong path disk) := by
  unfold makeLastDirectory
  refine (ends_tryMakeDirectory_along disk path).bind ?_ ?_
  · rintro fault middle ⟨hgrows, hnull⟩
    rcases fault with _ | (_ | e)
    · exact makesAlong_ok hgrows
    · exact ⟨hgrows, fun _ => hnull rfl⟩
    · dsimp only
      split
      · exact ⟨hgrows, nofun⟩
      · refine (ends_unlessDirectory_system middle _ e).mono ?_
        rintro result _ ⟨rfl, hsystem⟩
        exact ⟨hgrows, fun he => absurd he hsystem⟩
  · exact fun e after h => h.2.elim

theorem ends_makeDirectoriesFrom_along (disk : Disk) (anchor : Anchor) (parts : List Text) :
    Ends (makeDirectoriesFrom anchor parts) disk (MakesAlong ⟨anchor, parts.reverse⟩ disk) := by
  induction parts generalizing disk with
  | nil => exact ends_makeLastDirectory_along disk ⟨anchor, []⟩
  | cons part above ih =>
    have habove : above.reverse <+: (part :: above).reverse := by simp
    unfold makeDirectoriesFrom
    refine (ends_tryMakeDirectory_along disk ⟨anchor, (part :: above).reverse⟩).bind ?_ ?_
    · rintro fault middle ⟨hgrows, hnull⟩
      rcases fault with _ | (_ | e)
      · exact makesAlong_ok hgrows
      · exact ⟨hgrows, fun _ => hnull rfl⟩
      · dsimp only
        split
        · -- first those above it, then the directory itself
          refine (ih middle).bind ?_ ?_
          · rintro _ next ⟨hnext, -⟩
            have hall := hgrows.trans (hnext.of_prefix habove)
            refine (ends_makeLastDirectory_along next ⟨anchor, (part :: above).reverse⟩).mono ?_
            rintro result after ⟨hafter, hlast⟩
            exact ⟨hall.trans hafter, hlast⟩
          · rintro fault after ⟨hafter, hfault⟩
            refine ⟨hgrows.trans (hafter.of_prefix habove), fun he => ?_⟩
            obtain ⟨name, hname, hnull'⟩ := hfault (congrArg Except.error (Except.error.inj he))
            exact ⟨name, habove.subset hname, hnull'⟩
        · refine (ends_unlessDirectory_system middle _ e).mono ?_
          rintro result _ ⟨rfl, hsystem⟩
          exact ⟨hgrows, fun he => absurd he hsystem⟩
    · exact fun e after h => h.2.elim

theorem ends_makeDirectories_along (disk : Disk) (path : Path) :
    Ends (makeDirectories path) disk (MakesAlong path disk) := by
  have h := ends_makeDirectoriesFrom_along disk path.anchor path.parts.reverse
  rwa [List.reverse_reverse] at h

end DiskAction

/-! ## Steps that change the disk alone -/

namespace Action

variable {α β : Type}

/-- An action leaves everything but the disk as it is. -/
def DiskOnly (action : Action α) : Prop :=
  ∀ world, Ends action world fun _ after => after = { world with disk := after.disk }

theorem diskOnly_pure (a : α) : DiskOnly (pure a : Action α) := fun _ => rfl

theorem diskOnly_throw (e : Error) : DiskOnly (throw e : Action α) := fun _ => rfl

theorem diskOnly_ofExcept (result : Except Error α) : DiskOnly (ofExcept result) :=
  fun _ => ends_ofExcept.2 rfl

theorem diskOnly_onDisk (operations : DiskAction α) : DiskOnly (onDisk operations) := fun _ => rfl

theorem DiskOnly.bind {action : Action α} {next : α → Action β} (h : DiskOnly action)
    (hnext : ∀ a, DiskOnly (next a)) : DiskOnly (action >>= next) := by
  intro world
  refine (h world).bind (fun a middle hmiddle => ?_) fun _ _ hafter => hafter
  refine (hnext a middle).mono fun _ after hafter => ?_
  rw [hafter, hmiddle]

theorem diskOnly_onDiskOr (refused : SystemError → Error) (operations : DiskAction α) :
    DiskOnly (onDiskOr refused operations) := by
  refine (diskOnly_onDisk operations).bind ?_
  rintro ((_ | e) | a)
  · exact diskOnly_throw _
  · exact diskOnly_throw _
  · exact diskOnly_pure a

end Action

namespace Writer

theorem diskOnly_writeAtomic (path : Path) (bytes : List UInt8) :
    Action.DiskOnly (writeAtomic path bytes) := by
  refine (Action.diskOnly_onDiskOr _ _).bind fun temporary => (Action.diskOnly_onDisk _).bind ?_
  rintro ((_ | e) | _)
  · exact Action.diskOnly_throw _
  · exact (Action.diskOnly_onDisk _).bind fun _ => Action.diskOnly_throw _
  · exact Action.diskOnly_pure _

theorem diskOnly_store (writer : Writer) (path : Path) (bytes : List UInt8) :
    Action.DiskOnly (writer.store path bytes) := by
  refine (Action.diskOnly_onDiskOr _ _).bind fun _ => ?_
  split
  · exact diskOnly_writeAtomic path _
  · exact Action.diskOnly_onDiskOr _ _

theorem diskOnly_abandon (writer : Writer) (path : Path) (found : Surrogates) :
    Action.DiskOnly (writer.abandon path found) := by
  have hopen : Action.DiskOnly (writer.openFirst path) := by
    unfold openFirst
    split
    · exact (Action.diskOnly_onDiskOr _ _).bind fun _ => Action.diskOnly_pure _
    · exact Action.diskOnly_onDiskOr _ _
  exact (Action.diskOnly_onDiskOr _ _).bind fun _ => hopen.bind fun _ => Action.diskOnly_throw _

theorem diskOnly_write (writer : Writer) (path : Path) (content : Points) (validate : Bool) :
    Action.DiskOnly (writer.write path content validate) := by
  rw [write_eq]
  refine (Action.diskOnly_ofExcept _).bind fun _ => ?_
  split
  · exact diskOnly_store writer path _
  · exact diskOnly_abandon writer path _

end Writer

/-! ## Why a file cannot be written -/

/-- The system refuses to write a file: its directory, its temporary file or the file itself. -/
def Error.Refuses (path : Path) (e : Error) : Prop :=
  ∃ reason, e = .directoryRefused path.parent reason ∨ e = .temporaryRefused path reason ∨
    e = .writeRefused path reason

theorem Error.Refuses.category? {path : Path} {e : Error} (h : e.Refuses path) :
    e.category? = some .write := by
  obtain ⟨reason, rfl | rfl | rfl⟩ := h <;> rfl

/-- A result is no error but one with a property. -/
def OnlyRaises {α : Type} (raised : Error → Prop) : Except Error α → Prop
  | .ok _ => True
  | .error e => raised e

/-- The system refuses to write a file, or its path meets a null character. -/
def Error.RefusesOrNull (workdir : Location) (path : Path) (e : Error) : Prop :=
  e.Refuses path ∨ e = .nullCharacter ∧ path.MeetsNull workdir

namespace Writer

open DiskAction

theorem refusesOrNull_refusal {workdir : Location} {path : Path} {refused : SystemError → Error}
    {fault : DiskFault} (hrefused : ∀ e, (refused e).Refuses path)
    (hnull : fault = .nullCharacter → path.MeetsNull workdir) :
    (Action.refusal refused fault).RefusesOrNull workdir path := by
  cases fault with
  | nullCharacter => exact Or.inr ⟨rfl, hnull rfl⟩
  | system e => exact Or.inl (hrefused e)

theorem ends_writeDirect_error (world : World) (path : Path) (bytes : List UInt8) :
    Ends (writeDirect path bytes) world fun result _ =>
      OnlyRaises (Error.RefusesOrNull world.disk.workdir path) result := by
  unfold writeDirect
  rw [Action.ends_onDiskOr, ends_change]
  cases hwrite : world.disk.writeFile path.toText bytes with
  | ok after => exact trivial
  | error fault =>
    refine refusesOrNull_refusal (fun e => ⟨e, Or.inr (Or.inr rfl)⟩) ?_
    rintro rfl
    exact Or.inl (Path.contains_toText.1 (contains_of_writeFile hwrite))

/-- Filling and moving a temporary file meets a null character in one of the two paths only. -/
theorem ends_replace_null (disk : Disk) (temporary target : Text) (bytes : List UInt8) :
    Ends (replace temporary target bytes) disk fun result _ =>
      result = .error .nullCharacter →
        temporary.contains '\x00' = true ∨ target.contains '\x00' = true := by
  have hmove : ∀ disk, Ends (change fun disk => disk.rename temporary target) disk
      fun result _ => result = .error .nullCharacter →
        temporary.contains '\x00' = true ∨ target.contains '\x00' = true := by
    intro disk
    rw [ends_change]
    cases h : disk.rename temporary target with
    | ok after => exact nofun
    | error fault =>
      intro hfault
      exact contains_of_rename (Except.error.inj hfault ▸ h)
  unfold replace
  rw [ends_bind, ends_change]
  cases hwrite : disk.writeFile temporary bytes with
  | error fault =>
    intro hfault
    exact Or.inl (contains_of_writeFile (Except.error.inj hfault ▸ hwrite))
  | ok middle =>
    dsimp only
    rw [ends_bind, ends_ask]
    rcases middle.exists? target with e | (_ | _)
    · exact nofun
    · exact hmove middle
    · show Ends (change _ >>= fun _ => _) middle _
      rw [ends_bind, ends_change]
      cases hcopy : middle.copyMode target temporary with
      | ok next => exact hmove next
      | error fault =>
        intro hfault
        exact (contains_of_copyMode (Except.error.inj hfault ▸ hcopy)).symm

theorem ends_createTemporary_null (disk : Disk) (path : Path) :
    Ends (createTemporary path) disk fun result _ =>
      match result with
      | .ok temporary => temporary.contains '\x00' = false
      | .error fault => fault = .nullCharacter → path.MeetsNull disk.workdir := by
  unfold createTemporary
  rw [ends_bind, ends_get]
  dsimp only
  rw [ends_bind, ends_change]
  cases h : disk.createFile (temporaryPath disk path) with
  | ok after =>
    obtain ⟨l, hlocate, -⟩ := createFile_eq_ok_iff.1 h
    exact (locate_eq_ok_iff.1 hlocate).1
  | error fault =>
    rintro rfl
    exact meetsNull_of_temporaryPath (List.contains_iff_mem.1 (contains_of_createFile h))

theorem ends_writeAtomic_error (world : World) (path : Path) (bytes : List UInt8) :
    Ends (writeAtomic path bytes) world fun result _ =>
      OnlyRaises (Error.RefusesOrNull world.disk.workdir path) result := by
  unfold writeAtomic
  rw [ends_bind, Action.ends_onDiskOr]
  refine (ends_createTemporary_null world.disk path).mono ?_
  rintro (fault | temporary) created hcreated
  · exact refusesOrNull_refusal (fun e => ⟨e, Or.inr (Or.inl rfl)⟩) hcreated
  · show Ends (Action.onDisk _ >>= _) _ _
    rw [ends_bind, Action.ends_onDisk]
    refine (ends_replace_null created temporary path.toText bytes).mono ?_
    rintro ((_ | reason) | _) after hafter
    · rcases hafter rfl with hnull | hnull
      · have hclean : temporary.contains '\x00' = false := hcreated
        exact absurd (hnull.symm.trans hclean) (by decide)
      · exact Or.inr ⟨rfl, Or.inl (Path.contains_toText.1 hnull)⟩
    · show Ends (Action.onDisk _ >>= _) _ _
      rw [ends_bind, Action.ends_onDisk]
      exact Or.inl ⟨reason, Or.inr (Or.inr rfl)⟩
    · exact trivial

end Writer

/-! ## Whole writes -/

/-- A file is written: its bytes stand at a location at the end of its path, and all that is new
beside it are directories above it. -/
structure Disk.Stores (path : Path) (bytes : List UInt8) (l : Location) (a b : Disk) : Prop where
  /-- The file stands at the end of its path. -/
  holds : b.HoldsAt path.toText l bytes
  /-- It takes the place of no directory. -/
  place : a.get? l ≠ some .directory
  /-- The working directory is the same. -/
  workdir : b.workdir = a.workdir
  /-- Everything else stays, and what is new is a directory above the file. -/
  elsewhere : ∀ m, m ≠ l → b.get? m = a.get? m ∨
    a.get? m = none ∧ b.get? m = some .directory ∧ b.LeadsAlong path.parent m

namespace Writer

variable {a grown b : Disk} {path : Path} {bytes : List UInt8} {l : Location}

theorem Written.stores (h : Written grown path.toText bytes l b)
    (hgrows : GrowsAbove path.parent a grown) : Stores path bytes l a b := by
  refine ⟨h.holdsAt, ?_, h.changes.workdir.trans hgrows.workdir, fun m hm => ?_⟩
  · intro hdirectory
    exact h.place (hgrows.grows.get?_of_some hdirectory)
  · rw [h.changes.elsewhere m hm]
    rcases hgrows.entry m with hsame | ⟨hnone, hnew, halong⟩
    · exact Or.inl hsame
    · exact Or.inr ⟨hnone, hnew, halong.of_keeps (h.changes.keepsDirectories h.place)⟩

/-- How a file is written after its text has passed the check: it is stored; or the system refuses,
and then there are at most new directories above it. -/
def StoreEnds (path : Path) (bytes : List UInt8) (disk : Disk) (result : Except Error Unit)
    (after : Disk) : Prop :=
  match result with
  | .ok _ => ∃ l, Stores path bytes l disk after
  | .error e => e.Refuses path ∧ GrowsAbove path.parent disk after ∨
      e = .nullCharacter ∧ path.MeetsNull disk.workdir

theorem WriteEnds.storeEnds {result : Except Error Unit} {after : Disk}
    (h : WriteEnds grown path.toText bytes result after)
    (hraises : OnlyRaises (Error.RefusesOrNull grown.workdir path) result)
    (hgrows : GrowsAbove path.parent a grown) : StoreEnds path bytes a result after := by
  cases result with
  | ok _ =>
    obtain ⟨l, hwritten⟩ := h
    exact ⟨l, hwritten.stores hgrows⟩
  | error e =>
    rcases hraises with hrefuses | ⟨hnull, hmeets⟩
    · have hne : e ≠ .nullCharacter := by
        rintro rfl
        exact absurd hrefuses.category? (by simp [Error.category?])
      obtain ⟨hworkdir, hsame⟩ := h.2 hne
      refine Or.inl ⟨hrefuses, hworkdir.trans hgrows.workdir, fun l => ?_⟩
      have hkeeps := (Grows.of_get? hworkdir hsame).keepsDirectories
      rw [hsame l]
      rcases hgrows.entry l with hl | ⟨hnone, hl, halong⟩
      · exact Or.inl hl
      · exact Or.inr ⟨hnone, hl, halong.of_keeps hkeeps⟩
    · exact Or.inr ⟨hnull, hgrows.workdir ▸ hmeets⟩

theorem ends_store (writer : Writer) (world : World) (path : Path) (bytes : List UInt8) :
    Ends (writer.store path bytes) world fun result after =>
      StoreEnds path bytes world.disk result after.disk := by
  unfold store
  rw [ends_bind, Action.ends_onDiskOr]
  refine (DiskAction.ends_makeDirectories_along world.disk path.parent).mono ?_
  rintro ((_ | e) | _) grown ⟨hgrows, hnull⟩
  · exact Or.inr ⟨rfl, Or.inl (hnull rfl).of_parent⟩
  · exact Or.inl ⟨⟨e, Or.inl rfl⟩, hgrows⟩
  · dsimp only [Except.mapError]
    split
    · refine ((ends_writeAtomic _ path bytes).and (ends_writeAtomic_error _ path bytes)).mono ?_
      exact fun result after h => h.1.storeEnds h.2 hgrows
    · refine ((ends_writeDirect _ path bytes).and (ends_writeDirect_error _ path bytes)).mono ?_
      exact fun result after h => h.1.storeEnds h.2 hgrows

/-- How a whole write ends, and that it works on the disk alone: its text does not pass the check,
or it is stored or refused. -/
theorem ends_write_places (writer : Writer) (world : World) (path : Path) (content : Text)
    (validate : Bool) :
    Ends (writer.write path content.points validate) world fun result after =>
      after = { world with disk := after.disk } ∧
      ((∃ e, validate = true ∧ writer.check content.points = .error e ∧ result = .error e ∧
          after.disk = world.disk) ∨
        (validate = true → writer.check content.points = .ok ()) ∧
          StoreEnds path content.encodeUtf8 world.disk result after.disk) := by
  refine (diskOnly_write writer path content.points validate world).and ?_
  rw [write_points, ends_bind, Action.ends_ofExcept]
  cases validate with
  | false =>
    refine (ends_store writer world path _).mono ?_
    exact fun result after h => Or.inr ⟨nofun, h⟩
  | true =>
    rw [if_pos rfl]
    cases hcheck : writer.check content.points with
    | error e => exact Or.inl ⟨e, rfl, rfl, rfl, rfl⟩
    | ok _ =>
      refine (ends_store writer world path _).mono ?_
      exact fun result after h => Or.inr ⟨fun _ => rfl, h⟩

end Writer
end StubGraft
