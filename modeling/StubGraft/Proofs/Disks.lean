import StubGraft.Disk.Action
import StubGraft.Proofs.Results
import StubGraft.Run.Tool

/-!
# What disk operations leave alone

Each operation changes one location, or only adds directories, and a path leads to the same
location as before as long as no directory goes away.

* `Disk.KeepsDirectories` — then paths still lead where they led (`locate_of_keeps`).
* `Disk.ChangesOnly` — two disks differ at one location at most.
* `Disk.Grows` — one disk has directories where the other has nothing.
* `Disk.Rooted` — the directories above a location; every absolute path leads to a location with
  all of these, and a tool that writes there makes none.
-/

namespace StubGraft

namespace Disk

variable {a b c disk : Disk} {l m : Location} {path : Text}

/-! ## Directories that stay -/

/-- All directories of one disk are directories of another with the same working directory. -/
structure KeepsDirectories (a b : Disk) : Prop where
  /-- The working directory is the same. -/
  workdir : b.workdir = a.workdir
  /-- The directories stay. -/
  directory : ∀ l, a.get? l = some .directory → b.get? l = some .directory

theorem step_of_keeps (h : KeepsDirectories a b) {name : Text} (hstep : a.step l name = .ok m) :
    b.step l name = .ok m := by
  rw [step] at hstep ⊢
  cases hentry : a.get? l with
  | none => simp [hentry] at hstep
  | some entry =>
    cases entry with
    | file mode bytes => simp [hentry] at hstep
    | directory =>
      rw [h.directory l hentry]
      simpa [hentry] using hstep

theorem walk_of_keeps (h : KeepsDirectories a b) {names : List Text}
    (hwalk : a.walk l names = .ok m) : b.walk l names = .ok m := by
  induction names generalizing l with
  | nil => exact hwalk
  | cons name names ih =>
    rw [walk] at hwalk ⊢
    cases hstep : a.step l name with
    | error e => simp [hstep] at hwalk
    | ok next =>
      rw [step_of_keeps h hstep]
      exact ih (by simpa [hstep] using hwalk)

theorem find_of_keeps (h : KeepsDirectories a b) (hfind : a.find path = .ok l) :
    b.find path = .ok l := by
  rw [find] at hfind ⊢
  split at hfind
  · exact absurd hfind (by simp)
  · split at hfind
    · exact absurd hfind (by simp)
    · rw [if_neg ‹_›, if_neg ‹_›, h.workdir]
      exact walk_of_keeps h hfind

theorem locate_eq_ok_iff :
    disk.locate path = .ok l ↔ path.contains '\x00' = false ∧ disk.find path = .ok l := by
  rw [locate]
  cases path.contains '\x00' with
  | true => simp
  | false => cases disk.find path <;> simp [refuse]

/-- A path leads where it led. -/
theorem locate_of_keeps (h : KeepsDirectories a b) (hlocate : a.locate path = .ok l) :
    b.locate path = .ok l := by
  rw [locate_eq_ok_iff] at hlocate ⊢
  exact ⟨hlocate.1, find_of_keeps h hlocate.2⟩

/-! ## Changes at one location -/

/-- Two disks differ at one location at most. -/
structure ChangesOnly (l : Location) (a b : Disk) : Prop where
  /-- The working directory is the same. -/
  workdir : b.workdir = a.workdir
  /-- The same stands at all other locations. -/
  elsewhere : ∀ m, m ≠ l → b.get? m = a.get? m

theorem ChangesOnly.refl (l : Location) (a : Disk) : ChangesOnly l a a := ⟨rfl, fun _ _ => rfl⟩

theorem ChangesOnly.symm (h : ChangesOnly l a b) : ChangesOnly l b a :=
  ⟨h.workdir.symm, fun m hm => (h.elsewhere m hm).symm⟩

theorem ChangesOnly.trans (h : ChangesOnly l a b) (h' : ChangesOnly l b c) : ChangesOnly l a c :=
  ⟨h'.workdir.trans h.workdir, fun m hm => (h'.elsewhere m hm).trans (h.elsewhere m hm)⟩

theorem ChangesOnly.keepsDirectories (h : ChangesOnly l a b) (hl : a.get? l ≠ some .directory) :
    KeepsDirectories a b := by
  refine ⟨h.workdir, fun m hm => ?_⟩
  have hne : m ≠ l := fun he => hl (he ▸ hm)
  rw [h.elsewhere m hne, hm]

theorem ne_nil_of_get? (h : disk.get? l ≠ some .directory) : l ≠ [] := by
  rintro rfl
  exact h rfl

theorem changesOnly_put (disk : Disk) (hl : l ≠ []) (entry : Entry) :
    ChangesOnly l disk (disk.put l entry) :=
  ⟨rfl, fun m hm => by rw [get?_put disk hl, if_neg hm]⟩

/-- The mode that a file gets when bytes are written to it: its own, if it is there. -/
def modeAt (disk : Disk) (l : Location) : Nat :=
  match disk.get? l with
  | some (.file mode _) => mode
  | _ => defaultMode

theorem putBytes_eq_put (disk : Disk) (l : Location) (bytes : List UInt8) :
    disk.putBytes l bytes = disk.put l (.file (disk.modeAt l) bytes) := by
  unfold putBytes modeAt
  rcases disk.get? l with _ | (_ | ⟨mode, old⟩) <;> rfl

theorem get?_putBytes (disk : Disk) (hl : l ≠ []) (bytes : List UInt8) :
    (disk.putBytes l bytes).get? l = some (.file (disk.modeAt l) bytes) := by
  rw [putBytes_eq_put, get?_put disk hl, if_pos rfl]

theorem changesOnly_putBytes (disk : Disk) (hl : l ≠ []) (bytes : List UInt8) :
    ChangesOnly l disk (disk.putBytes l bytes) := by
  rw [putBytes_eq_put]
  exact changesOnly_put disk hl _

/-! ## New directories -/

/-- One disk has directories where another with the same working directory has nothing. -/
structure Grows (a b : Disk) : Prop where
  /-- The working directory is the same. -/
  workdir : b.workdir = a.workdir
  /-- What stood somewhere stays, and what is new is a directory. -/
  entry : ∀ l, b.get? l = a.get? l ∨ a.get? l = none ∧ b.get? l = some .directory

theorem Grows.refl (a : Disk) : Grows a a := ⟨rfl, fun _ => Or.inl rfl⟩

theorem Grows.trans (h : Grows a b) (h' : Grows b c) : Grows a c := by
  refine ⟨h'.workdir.trans h.workdir, fun l => ?_⟩
  rcases h.entry l with hl | ⟨hnone, hl⟩
  · rw [← hl]
    exact h'.entry l
  · rcases h'.entry l with hl' | ⟨hnone', -⟩
    · exact Or.inr ⟨hnone, hl'.trans hl⟩
    · simp [hl] at hnone'

theorem Grows.of_get? (hworkdir : b.workdir = a.workdir) (h : ∀ l, b.get? l = a.get? l) :
    Grows a b :=
  ⟨hworkdir, fun l => Or.inl (h l)⟩

theorem Grows.get?_of_some (h : Grows a b) {entry : Entry} (hl : a.get? l = some entry) :
    b.get? l = some entry := by
  rcases h.entry l with he | ⟨hnone, -⟩
  · rw [he, hl]
  · simp [hl] at hnone

theorem Grows.keepsDirectories (h : Grows a b) : KeepsDirectories a b :=
  ⟨h.workdir, fun _ hl => h.get?_of_some hl⟩

/-! ## Reading and writing -/

theorem entryAt_eq_ok_iff {entry : Entry} :
    disk.entryAt path = .ok entry ↔ ∃ l, disk.locate path = .ok l ∧ disk.get? l = some entry := by
  rw [entryAt, bind_eq_ok_iff]
  refine exists_congr fun l => and_congr_right fun _ => ?_
  cases disk.get? l with
  | none => simp [refuse]
  | some entry => simp [pure, Except.pure]

/-- A path leads to a location, and a file with the given bytes stands there. -/
structure HoldsAt (disk : Disk) (path : Text) (l : Location) (bytes : List UInt8) : Prop where
  /-- The path leads to the location. -/
  locate : disk.locate path = .ok l
  /-- The file stands there. -/
  file : ∃ mode, disk.get? l = some (.file mode bytes)

/-- A file that can be read stands where its path leads. -/
theorem readBytes_eq_ok_iff {bytes : List UInt8} :
    disk.readBytes path = .ok bytes ↔ ∃ l, disk.HoldsAt path l bytes := by
  rw [readBytes, bind_eq_ok_iff]
  constructor
  · rintro ⟨entry, hentry, h⟩
    obtain ⟨l, hlocate, hl⟩ := entryAt_eq_ok_iff.1 hentry
    cases entry with
    | directory => exact absurd h (by simp [refuse])
    | file mode old =>
      obtain rfl : old = bytes := Except.ok.inj h
      exact ⟨l, hlocate, mode, hl⟩
  · rintro ⟨l, hlocate, mode, hl⟩
    exact ⟨.file mode bytes, entryAt_eq_ok_iff.2 ⟨l, hlocate, hl⟩, rfl⟩

theorem HoldsAt.not_directory {bytes : List UInt8} (h : disk.HoldsAt path l bytes) :
    disk.get? l ≠ some .directory := by
  obtain ⟨mode, hl⟩ := h.file
  simp [hl]

/-- A file elsewhere is not touched. -/
theorem HoldsAt.of_changesOnly {bytes : List UInt8} (h : a.HoldsAt path m bytes)
    (hchanges : ChangesOnly l a b) (hl : a.get? l ≠ some .directory) (hne : m ≠ l) :
    b.HoldsAt path m bytes := by
  refine ⟨locate_of_keeps (hchanges.keepsDirectories hl) h.locate, ?_⟩
  rw [hchanges.elsewhere m hne]
  exact h.file

theorem HoldsAt.exists? {bytes : List UInt8} (h : disk.HoldsAt path l bytes) :
    disk.exists? path = .ok true := by
  obtain ⟨mode, hl⟩ := h.file
  rw [Disk.exists?, entrySatisfies?, entryAt_eq_ok_iff.2 ⟨l, h.locate, hl⟩]

theorem writeFile_eq_ok_iff {bytes : List UInt8} :
    a.writeFile path bytes = .ok b ↔
      ∃ l, a.locate path = .ok l ∧ a.get? l ≠ some .directory ∧ b = a.putBytes l bytes := by
  rw [writeFile, bind_eq_ok_iff]
  refine exists_congr fun l => and_congr_right fun _ => ?_
  rcases a.get? l with _ | (_ | ⟨mode, old⟩)
  · simp [pure, Except.pure, eq_comm]
  · simp [refuse]
  · simp [pure, Except.pure, eq_comm]

/-! ## The directories above a location -/

/-- All locations above a location are directories. -/
def Rooted (disk : Disk) (l : Location) : Prop :=
  ∀ n < l.length, disk.get? (l.take n) = some .directory

theorem rooted_nil (disk : Disk) : disk.Rooted [] := fun _ hn => absurd hn (Nat.not_lt_zero _)

theorem Rooted.dropLast (h : disk.Rooted l) : disk.Rooted l.dropLast := by
  intro n hn
  rw [List.length_dropLast] at hn
  rw [List.dropLast_eq_take, List.take_take, Nat.min_eq_left (by omega)]
  exact h n (by omega)

theorem Rooted.append (h : disk.Rooted l) (hl : disk.get? l = some .directory) (name : Text) :
    disk.Rooted (l ++ [name]) := by
  intro n hn
  rw [List.length_append, List.length_singleton] at hn
  rw [List.take_append_of_le_length (by omega)]
  by_cases hlt : n < l.length
  · exact h n hlt
  · rw [List.take_of_length_le (by omega), hl]

theorem Rooted.step (h : disk.Rooted l) {name : Text} (hstep : disk.step l name = .ok m) :
    disk.Rooted m := by
  rw [Disk.step] at hstep
  rcases hentry : disk.get? l with _ | (_ | ⟨mode, bytes⟩)
  · simp [hentry] at hstep
  · simp only [hentry] at hstep
    split at hstep
    · cases hstep
      exact h
    · split at hstep
      · cases hstep
        exact h.dropLast
      · split at hstep
        · exact absurd hstep (by simp)
        · cases hstep
          exact h.append hentry name
  · simp [hentry] at hstep

theorem Rooted.walk (h : disk.Rooted l) {names : List Text}
    (hwalk : disk.walk l names = .ok m) : disk.Rooted m := by
  induction names generalizing l with
  | nil =>
    cases hwalk
    exact h
  | cons name names ih =>
    rw [Disk.walk] at hwalk
    cases hstep : disk.step l name with
    | error e => simp [hstep] at hwalk
    | ok next => exact ih (h.step hstep) (by simpa [hstep] using hwalk)

/-- An absolute path leads through directories only. -/
theorem rooted_of_locate (habsolute : path.head? = some '/') (h : disk.locate path = .ok l) :
    disk.Rooted l := by
  have hfind := (locate_eq_ok_iff.1 h).2
  rw [find, if_pos habsolute] at hfind
  split at hfind
  · exact absurd hfind (by simp)
  · split at hfind
    · exact absurd hfind (by simp)
    · exact (rooted_nil disk).walk hfind

/-- Directories that are put above a location stand there already. -/
theorem Rooted.foldl_put {ns : List Nat} (h : disk.Rooted l) (hns : ∀ n ∈ ns, n < l.length) :
    (ns.foldl (fun disk n => if n = 0 then disk else disk.put (l.take n) .directory) disk).workdir =
        disk.workdir ∧
      ∀ m, (ns.foldl (fun disk n => if n = 0 then disk else disk.put (l.take n) .directory)
        disk).get? m = disk.get? m := by
  induction ns generalizing disk with
  | nil => exact ⟨rfl, fun _ => rfl⟩
  | cons n ns ih =>
    have hn : n < l.length := hns n List.mem_cons_self
    have hrest : ∀ k ∈ ns, k < l.length := fun k hk => hns k (List.mem_cons_of_mem _ hk)
    rw [List.foldl_cons]
    by_cases hzero : n = 0
    · rw [if_pos hzero]
      exact ih h hrest
    · have hne : l.take n ≠ [] := by
        rw [Ne, List.take_eq_nil_iff]
        rintro (hnil | rfl)
        · contradiction
        · exact absurd hn (Nat.not_lt_zero _)
      have hsame : ∀ m, (disk.put (l.take n) .directory).get? m = disk.get? m := by
        intro m
        rw [get?_put disk hne]
        split
        · rw [‹m = l.take n›, h n hn]
        · rfl
      have hrooted : (disk.put (l.take n) .directory).Rooted l := by
        intro k hk
        rw [hsame, h k hk]
      rw [if_neg hzero]
      obtain ⟨hworkdir, hget⟩ := ih hrooted hrest
      exact ⟨hworkdir, fun m => (hget m).trans (hsame m)⟩

theorem Rooted.putAncestors (h : disk.Rooted l) :
    (disk.putAncestors l).workdir = disk.workdir ∧
      ∀ m, (disk.putAncestors l).get? m = disk.get? m :=
  h.foldl_put fun _ hn => List.mem_range.1 hn

/-! ## Tools that write one file -/

/-- A file written below directories that are there changes its own location. -/
theorem Rooted.putFile (h : disk.Rooted l) (hl : l ≠ []) (bytes : List UInt8)
    (mode : Option Nat) :
    ChangesOnly l disk (disk.putFile l bytes mode) ∧
      ∃ mode', (disk.putFile l bytes mode).get? l = some (.file mode' bytes) := by
  obtain ⟨hworkdir, hsame⟩ := h.putAncestors
  have hbase : ChangesOnly l disk (disk.putAncestors l) := ⟨hworkdir, fun m _ => hsame m⟩
  unfold Disk.putFile
  cases mode with
  | none => exact ⟨hbase.trans (changesOnly_putBytes _ hl bytes), _, get?_putBytes _ hl bytes⟩
  | some mode =>
    refine ⟨hbase.trans (changesOnly_put _ hl _), mode, ?_⟩
    show ((disk.putAncestors l).put l (.file mode bytes)).get? l = _
    rw [get?_put _ hl, if_pos rfl]

end Disk

/-- A tool that runs in a folder writes no other file than that at a location. -/
def Tool.WritesOnly (folder l : Location) : Tool → Prop
  | .broken _ => True
  | .working edits _ _ _ =>
    ∀ edit ∈ edits, ∃ path bytes mode, edit = .write path bytes mode ∧
      Location.below folder path = l

/-- The bytes that an edit writes. -/
def Edit.written? : Edit → Option (List UInt8)
  | .write _ bytes _ => some bytes
  | .delete _ => none

/-- The contents of the files that a tool writes. -/
def Tool.written : Tool → List (List UInt8)
  | .broken _ => []
  | .working edits _ _ _ => edits.filterMap Edit.written?

/-- Edits that write one file change nothing else, and the file holds what they have written. -/
theorem foldl_apply_changesOnly {folder l : Location} {edits : List Edit} {disk : Disk}
    (hedits : ∀ edit ∈ edits, ∃ path bytes mode, edit = .write path bytes mode ∧
      Location.below folder path = l)
    (hrooted : disk.Rooted l) (hl : l ≠ []) :
    Disk.ChangesOnly l disk (edits.foldl (Edit.apply folder) disk) ∧
      ((edits.foldl (Edit.apply folder) disk).get? l = disk.get? l ∨
        ∃ mode, ∃ bytes ∈ edits.filterMap Edit.written?,
          (edits.foldl (Edit.apply folder) disk).get? l = some (.file mode bytes)) := by
  induction edits generalizing disk with
  | nil => exact ⟨.refl l disk, Or.inl rfl⟩
  | cons edit edits ih =>
    obtain ⟨path, bytes, mode, rfl, hpath⟩ := hedits edit List.mem_cons_self
    have happly : Edit.apply folder disk (.write path bytes mode) = disk.putFile l bytes mode := by
      rw [Edit.apply, hpath]
    obtain ⟨hchanges, mode', hfile⟩ := hrooted.putFile hl bytes mode
    have hrooted' : (disk.putFile l bytes mode).Rooted l := by
      intro n hn
      have hne : l.take n ≠ l := fun he => by
        have := congrArg List.length he
        rw [List.length_take] at this
        omega
      rw [hchanges.elsewhere _ hne, hrooted n hn]
    obtain ⟨hchanges', hlast⟩ :=
      ih (fun edit hm => hedits edit (List.mem_cons_of_mem _ hm)) hrooted'
    rw [List.foldl_cons, happly]
    refine ⟨hchanges.trans hchanges', Or.inr ?_⟩
    rcases hlast with hsame | ⟨mode'', bytes', hbytes', hfile'⟩
    · exact ⟨mode', bytes, List.mem_cons_self, hsame.trans hfile⟩
    · exact ⟨mode'', bytes', List.mem_cons_of_mem _ hbytes', hfile'⟩

end StubGraft
