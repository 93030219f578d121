import StubGraft.Proofs.Texts
import StubGraft.Proofs.Writing

/-!
# The folder of a file

A path is written as the path of its folder, a slash and a name, and it is walked through that
folder.  So where a path leads anywhere its folder is there, and making the folder makes nothing.

* `Disk.plainNames_child` — the names of a path are those of its folder and then its own.
* `Disk.entryAt_parent` — the folder of a path that leads somewhere is a directory.
* `DiskAction.ends_makeDirectories_of_directory` — a directory that is there is not made again.
* `Disk.locate_unique` — where a path leads is a matter of the working directory.
-/

namespace StubGraft

namespace Disk

/-! ## Names of paths -/

/-- The names between the slashes of a path. -/
def plainNames (path : Text) : List Text := (Text.pieces '/' path).filter (· ≠ [])

/-- A slash at the end of a path adds a dot at most. -/
theorem namesOf_eq (path : Text) :
    namesOf path = plainNames path ∨ namesOf path = plainNames path ++ [['.']] := by
  unfold namesOf plainNames
  dsimp only
  split
  · exact Or.inr rfl
  · exact Or.inl rfl

theorem plainNames_append_cons (a b : Text) :
    plainNames (a ++ '/' :: b) = plainNames a ++ plainNames b := by
  rw [plainNames, Text.pieces_append_cons, List.filter_append]
  rfl

theorem plainNames_ne_nil {c : Char} {t : Text} (hc : c ∈ t) (hne : c ≠ '/') :
    plainNames t ≠ [] := by
  obtain ⟨piece, hpiece, hmem⟩ := Text.exists_piece hc hne
  have hmem' : piece ∈ plainNames t := by
    refine List.mem_filter.2 ⟨hpiece, ?_⟩
    simpa using List.ne_nil_of_mem hmem
  exact List.ne_nil_of_mem hmem'

/-- An absolute path is the path of its folder and then more. -/
theorem toText_child {folder : Path} (h : folder.anchor = .root) (name : Text) :
    (∃ rest, (folder.child name).toText = folder.toText ++ rest) ∧
      plainNames (folder.child name).toText = plainNames folder.toText ++ plainNames name := by
  obtain ⟨anchor, parts⟩ := folder
  obtain rfl : anchor = .root := h
  have htext : ∀ parts, (Path.mk .root parts).toText = [] ++ '/' :: Text.join ['/'] parts :=
    fun _ => rfl
  rw [Path.child, htext, htext, plainNames_append_cons, plainNames_append_cons]
  by_cases hparts : parts = []
  · subst hparts
    exact ⟨⟨name, rfl⟩, rfl⟩
  · rw [Text.join_append_singleton _ hparts, List.append_assoc]
    refine ⟨⟨'/' :: name, by simp⟩, ?_⟩
    rw [List.singleton_append, plainNames_append_cons, List.append_assoc]

/-! ## Walking through a folder -/

variable {disk a b : Disk} {k l m : Location}

theorem walk_append (disk : Disk) (l : Location) (names more : List Text) :
    disk.walk l (names ++ more) = disk.walk l names >>= fun next => disk.walk next more := by
  induction names generalizing l with
  | nil => rfl
  | cons name names ih =>
    rw [List.cons_append, walk, walk]
    cases disk.step l name with
    | error e => rfl
    | ok next => exact ih next

/-- A name leads on from a directory only. -/
theorem directory_of_step {name : Text} (h : disk.step l name = .ok m) :
    disk.get? l = some .directory := by
  rw [step] at h
  rcases hentry : disk.get? l with _ | (_ | ⟨mode, bytes⟩)
  · simp [hentry] at h
  · rfl
  · simp [hentry] at h

theorem directory_of_walk {names : List Text} (hne : names ≠ [])
    (h : disk.walk l names = .ok m) : disk.get? l = some .directory := by
  cases names with
  | nil => exact absurd rfl hne
  | cons name names =>
    rw [walk] at h
    cases hstep : disk.step l name with
    | error e => simp [hstep] at h
    | ok next => exact directory_of_step hstep

theorem walk_namesOf {path : Text} (h : disk.walk l (plainNames path) = .ok m)
    (hm : disk.get? m = some .directory) : disk.walk l (namesOf path) = .ok m := by
  rcases namesOf_eq path with hnames | hnames
  · rw [hnames, h]
  · have hdot : disk.walk m [['.']] = .ok m := by
      simp [walk, step, hm]
    rw [hnames, walk_append, h]
    exact hdot

theorem find_eq_ok_iff {path : Text} :
    disk.find path = .ok l ↔ path.isEmpty = false ∧ Text.byteLength path < maxPathBytes ∧
      disk.walk (if path.head? = some '/' then [] else disk.workdir) (namesOf path) = .ok l := by
  rw [find]
  cases path.isEmpty with
  | true => simp
  | false =>
    by_cases hlong : maxPathBytes ≤ Text.byteLength path
    · simp [hlong, Nat.not_lt_of_le hlong]
    · simp [hlong, Nat.lt_of_not_le hlong]

/-- The folder of a path that leads somewhere is a directory. -/
theorem entryAt_parent {folder : Path} {name : Text} (hroot : folder.anchor = .root)
    (hname : plainNames name ≠ []) (h : disk.locate (folder.child name).toText = .ok l) :
    disk.entryAt folder.toText = .ok .directory := by
  have hslash : ∀ path : Path, path.anchor = .root →
      path.toText.isEmpty = false ∧ path.toText.head? = some '/' := by
    rintro ⟨anchor, parts⟩ rfl
    exact ⟨rfl, rfl⟩
  obtain ⟨⟨rest, htext⟩, hnames⟩ := toText_child hroot name
  obtain ⟨hnull, hfind⟩ := locate_eq_ok_iff.1 h
  obtain ⟨-, hshort, hwalk⟩ := find_eq_ok_iff.1 hfind
  rw [if_pos (hslash (folder.child name) hroot).2] at hwalk
  -- the walk passes through the folder and goes on from there
  obtain ⟨k, hfolder, hk⟩ : ∃ k, disk.walk [] (plainNames folder.toText) = .ok k ∧
      disk.get? k = some .directory := by
    obtain ⟨more, hmore⟩ : ∃ more, namesOf (folder.child name).toText =
        plainNames folder.toText ++ (plainNames name ++ more) := by
      rcases namesOf_eq (folder.child name).toText with he | he
      · exact ⟨[], by rw [he, hnames, List.append_nil]⟩
      · exact ⟨[['.']], by rw [he, hnames, List.append_assoc]⟩
    rw [hmore, walk_append, bind_eq_ok_iff] at hwalk
    obtain ⟨k, hfolder, hrest⟩ := hwalk
    exact ⟨k, hfolder, directory_of_walk (by simp [hname]) hrest⟩
  refine entryAt_eq_ok_iff.2 ⟨k, locate_eq_ok_iff.2 ⟨?_, find_eq_ok_iff.2 ⟨?_, ?_, ?_⟩⟩, hk⟩
  · rw [htext, List.contains_append, Bool.or_eq_false_iff] at hnull
    exact hnull.1
  · exact (hslash _ hroot).1
  · rw [htext, Text.byteLength_append] at hshort
    omega
  · rw [if_pos (hslash _ hroot).2]
    exact walk_namesOf hfolder hk

/-! ## Where paths lead -/

theorem step_unique {name : Text} (ha : a.step k name = .ok l) (hb : b.step k name = .ok m) :
    l = m := by
  rw [step, directory_of_step ha] at ha
  rw [step, directory_of_step hb] at hb
  exact Except.ok.inj (ha.symm.trans hb)

theorem walk_unique {names : List Text} (ha : a.walk k names = .ok l)
    (hb : b.walk k names = .ok m) : l = m := by
  induction names generalizing k with
  | nil => exact Except.ok.inj (ha.symm.trans hb)
  | cons name names ih =>
    rw [walk] at ha hb
    cases hstepA : a.step k name with
    | error e => simp [hstepA] at ha
    | ok next =>
      cases hstepB : b.step k name with
      | error e => simp [hstepB] at hb
      | ok next' =>
        obtain rfl := step_unique hstepA hstepB
        exact ih (by simpa [hstepA] using ha) (by simpa [hstepB] using hb)

/-- Two disks with one working directory do not disagree on where a path leads. -/
theorem locate_unique {path : Text} (hworkdir : b.workdir = a.workdir)
    (ha : a.locate path = .ok l) (hb : b.locate path = .ok m) : l = m := by
  obtain ⟨-, -, hwalkA⟩ := find_eq_ok_iff.1 (locate_eq_ok_iff.1 ha).2
  obtain ⟨-, -, hwalkB⟩ := find_eq_ok_iff.1 (locate_eq_ok_iff.1 hb).2
  rw [hworkdir] at hwalkB
  exact walk_unique hwalkA hwalkB

end Disk

/-! ## Making directories that are there -/

namespace DiskAction

open Disk

variable {disk : Disk}

/-- What follows an attempt to make a directory that is there. -/
theorem ends_tryMakeDirectory_bind {path : Text} {next : Option DiskFault → DiskAction Unit}
    {post : Except DiskFault Unit → Disk → Prop} (h : disk.entryAt path = .ok .directory)
    (hnext : ∀ e : SystemError, e.errno = .alreadyExists →
      Ends (next (some (.system e))) disk post) :
    Ends (tryMakeDirectory path >>= next) disk post := by
  obtain ⟨l, hlocate, hl⟩ := entryAt_eq_ok_iff.1 h
  have hrefused : disk.makeDirectory path = .error (.system ⟨.alreadyExists, path, none⟩) := by
    rw [makeDirectory, hlocate]
    simp only [bind, Except.bind, hl]
    rfl
  rw [ends_bind]
  unfold tryMakeDirectory
  rw [ends_bind, ends_get]
  dsimp only
  rw [hrefused]
  exact hnext _ rfl

theorem ends_unlessDirectory_of_directory {path : Text} (e : SystemError)
    (h : disk.entryAt path = .ok .directory) :
    Ends (unlessDirectory path e) disk fun result after => result = .ok () ∧ after = disk := by
  have hthere : disk.isDirectory? path = .ok true := by
    rw [isDirectory?, entrySatisfies?, h]
    rfl
  unfold unlessDirectory
  rw [ends_bind, ends_ask, hthere]
  exact ⟨rfl, rfl⟩

/-- A directory that is there is not made again. -/
theorem ends_makeDirectories_of_directory {path : Path}
    (h : disk.entryAt path.toText = .ok .directory) :
    Ends (makeDirectories path) disk fun result after => result = .ok () ∧ after = disk := by
  obtain ⟨anchor, parts⟩ := path
  have hmake : ∀ reversed, reversed.reverse = parts →
      Ends (makeDirectoriesFrom anchor reversed) disk fun result after =>
        result = .ok () ∧ after = disk := by
    rintro reversed rfl
    cases reversed with
    | nil =>
      unfold makeDirectoriesFrom makeLastDirectory
      refine ends_tryMakeDirectory_bind h fun e herrno => ?_
      dsimp only
      rw [if_neg (by simp [herrno])]
      exact ends_unlessDirectory_of_directory e h
    | cons part above =>
      unfold makeDirectoriesFrom
      refine ends_tryMakeDirectory_bind h fun e herrno => ?_
      dsimp only
      rw [if_neg (by simp [herrno])]
      exact ends_unlessDirectory_of_directory e h
  exact hmake parts.reverse (by simp)

end DiskAction
end StubGraft
