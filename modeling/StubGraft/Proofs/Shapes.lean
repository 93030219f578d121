import StubGraft.Proofs.Writing
import Mathlib.Algebra.Group.Nat.Defs
import Mathlib.Data.List.GetD
import Mathlib.Data.List.Nodup
import Mathlib.Data.List.Perm.Subperm

/-!
# Disks of the same shape

Whether an operation is refused, and for which reason, depends on where directories and files
stand, and not on what is in the files.  So a write that succeeds on one disk succeeds on every
disk with the same directories and files.

* `Disk.SameShape` — two disks have directories and files at the same locations.
* `DiskAction.Alike` — a sequence of operations gives the same result on disks of the same shape,
  and leaves them so.
* `DiskAction.temporaryPath_eq` — the temporary path depends on the shape only.
* `Writer.alike_place` — writing a file, with or without a temporary one, is such a sequence.
-/

namespace StubGraft

/-- Whether an entry is a directory. -/
def Entry.isDirectory : Entry → Bool
  | .directory => true
  | .file .. => false

namespace Disk

/-! ## Shapes -/

/-- Two disks have directories and files at the same locations. -/
structure SameShape (a b : Disk) : Prop where
  /-- The working directory is the same. -/
  workdir : b.workdir = a.workdir
  /-- At each location stands an entry of the same kind, or none on both disks. -/
  kind : ∀ l, (b.get? l).map Entry.isDirectory = (a.get? l).map Entry.isDirectory

variable {a b c : Disk} {l m : Location} {path : Text}

theorem SameShape.trans (h : SameShape a b) (h' : SameShape b c) : SameShape a c :=
  ⟨h'.workdir.trans h.workdir, fun l => (h'.kind l).trans (h.kind l)⟩

/-- What stands at a location of two disks of the same shape. -/
theorem SameShape.cases (h : SameShape a b) (l : Location) :
    a.get? l = none ∧ b.get? l = none ∨
    a.get? l = some .directory ∧ b.get? l = some .directory ∨
    ∃ mode bytes mode' bytes',
      a.get? l = some (.file mode bytes) ∧ b.get? l = some (.file mode' bytes') := by
  have hkind := h.kind l
  rcases ha : a.get? l with _ | (_ | ⟨mode, bytes⟩) <;>
    rcases hb : b.get? l with _ | (_ | ⟨mode', bytes'⟩) <;>
    simp [ha, hb, Entry.isDirectory] at hkind ⊢

theorem SameShape.none_or_some (h : SameShape a b) (l : Location) :
    a.get? l = none ∧ b.get? l = none ∨
    ∃ entry entry', a.get? l = some entry ∧ b.get? l = some entry' ∧
      entry'.isDirectory = entry.isDirectory := by
  obtain hnone | ⟨ha, hb⟩ | ⟨_, _, _, _, ha, hb⟩ := h.cases l
  · exact Or.inl hnone
  · exact Or.inr ⟨_, _, ha, hb, rfl⟩
  · exact Or.inr ⟨_, _, ha, hb, rfl⟩

/-- A file may be replaced by another one. -/
theorem SameShape.of_changesOnly {mode mode' : Nat} {bytes bytes' : List UInt8}
    (h : ChangesOnly l a b) (ha : a.get? l = some (.file mode bytes))
    (hb : b.get? l = some (.file mode' bytes')) : SameShape a b := by
  refine ⟨h.workdir, fun m => ?_⟩
  by_cases hm : m = l
  · rw [hm, ha, hb]
    rfl
  · rw [h.elsewhere m hm]

/-- The top of the tree is a directory, whatever is put there. -/
theorem get?_put_nil (disk : Disk) (m : Location) (entry : Entry) :
    (disk.put [] entry).get? m = disk.get? m := by
  by_cases hm : m = []
  · simp [get?, hm]
  · simp [get?, Disk.put, hm, lookup_setEntry]

theorem get?_erase_nil (disk : Disk) (m : Location) : (disk.erase []).get? m = disk.get? m := by
  by_cases hm : m = []
  · simp [get?, hm]
  · have hlookup := lookup_filter_ne [] m disk.entries
    rw [if_neg hm] at hlookup
    simpa [get?, Disk.erase, hm] using hlookup

theorem SameShape.put (h : SameShape a b) (l : Location) {entry entry' : Entry}
    (hentry : entry'.isDirectory = entry.isDirectory) :
    SameShape (a.put l entry) (b.put l entry') := by
  refine ⟨h.workdir, fun m => ?_⟩
  by_cases hl : l = []
  · rw [hl, get?_put_nil, get?_put_nil, h.kind]
  · rw [get?_put a hl, get?_put b hl]
    split
    · exact congrArg some hentry
    · exact h.kind m

theorem SameShape.putBytes (h : SameShape a b) (l : Location) (bytes : List UInt8) :
    SameShape (a.putBytes l bytes) (b.putBytes l bytes) := by
  rw [putBytes_eq_put, putBytes_eq_put]
  exact h.put l rfl

theorem SameShape.erase (h : SameShape a b) (l : Location) :
    SameShape (a.erase l) (b.erase l) := by
  refine ⟨h.workdir, fun m => ?_⟩
  by_cases hl : l = []
  · rw [hl, get?_erase_nil, get?_erase_nil, h.kind]
  · rw [get?_erase a hl, get?_erase b hl]
    split
    · rfl
    · exact h.kind m

/-! ## Walking paths -/

theorem SameShape.step_eq (h : SameShape a b) (l : Location) (name : Text) :
    b.step l name = a.step l name := by
  rw [step, step]
  obtain ⟨ha, hb⟩ | ⟨ha, hb⟩ | ⟨_, _, _, _, ha, hb⟩ := h.cases l <;> rw [ha, hb]

theorem SameShape.walk_eq (h : SameShape a b) (l : Location) (names : List Text) :
    b.walk l names = a.walk l names := by
  induction names generalizing l with
  | nil => rfl
  | cons name names ih =>
    rw [walk, walk, h.step_eq]
    cases a.step l name with
    | error e => rfl
    | ok next => exact ih next

theorem SameShape.find_eq (h : SameShape a b) (path : Text) : b.find path = a.find path := by
  rw [find, find, h.workdir, h.walk_eq]

/-- A path leads to the same location. -/
theorem SameShape.locate_eq (h : SameShape a b) (path : Text) :
    b.locate path = a.locate path := by
  rw [locate, locate, h.find_eq]

/-! ## Results that agree -/

/-- Two attempts agree: both are refused for the same reason, or their results are related. -/
def Agree {α : Type} (rel : α → α → Prop) : Except DiskFault α → Except DiskFault α → Prop
  | .ok a, .ok b => rel a b
  | .error e, .error e' => e' = e
  | _, _ => False

theorem Agree.bind {α β : Type} {rel : α → α → Prop} {rel' : β → β → Prop}
    {first second : Except DiskFault α} {next next' : α → Except DiskFault β}
    (h : Agree rel first second) (hnext : ∀ x y, rel x y → Agree rel' (next x) (next' y)) :
    Agree rel' (first >>= next) (second >>= next') := by
  cases first <;> cases second
  · exact h
  · exact h.elim
  · exact h.elim
  · exact hnext _ _ h

theorem SameShape.agree_locate (h : SameShape a b) (path : Text) :
    Agree Eq (a.locate path) (b.locate path) := by
  rw [h.locate_eq]
  cases a.locate path <;> exact rfl

theorem SameShape.agree_entryAt (h : SameShape a b) (path : Text) :
    Agree (fun entry entry' => entry'.isDirectory = entry.isDirectory)
      (a.entryAt path) (b.entryAt path) := by
  refine (h.agree_locate path).bind ?_
  rintro l _ rfl
  obtain ⟨ha, hb⟩ | ⟨entry, entry', ha, hb, hkind⟩ := h.none_or_some l
  · rw [ha, hb]
    exact rfl
  · rw [ha, hb]
    exact hkind

/-- The same paths lead to something. -/
theorem SameShape.exists?_eq (h : SameShape a b) (path : Text) :
    b.exists? path = a.exists? path := by
  rw [exists?, exists?, entrySatisfies?, entrySatisfies?]
  have hentry := h.agree_entryAt path
  cases ha : a.entryAt path <;> cases hb : b.entryAt path <;> rw [ha, hb] at hentry
  · rw [show _ = _ from hentry]
  · exact hentry.elim
  · exact hentry.elim

/-! ## Changes -/

theorem SameShape.agree_createFile (h : SameShape a b) (path : Text) :
    Agree SameShape (a.createFile path) (b.createFile path) := by
  refine (h.agree_locate path).bind ?_
  rintro l _ rfl
  obtain ⟨ha, hb⟩ | ⟨entry, entry', ha, hb, -⟩ := h.none_or_some l
  · rw [ha, hb]
    exact h.put l rfl
  · rw [ha, hb]
    exact rfl

theorem SameShape.agree_writeFile (h : SameShape a b) (path : Text) (bytes : List UInt8) :
    Agree SameShape (a.writeFile path bytes) (b.writeFile path bytes) := by
  refine (h.agree_locate path).bind ?_
  rintro l _ rfl
  obtain ⟨ha, hb⟩ | ⟨ha, hb⟩ | ⟨_, _, _, _, ha, hb⟩ := h.cases l <;> rw [ha, hb]
  · exact h.putBytes l bytes
  · exact rfl
  · exact h.putBytes l bytes

theorem SameShape.agree_copyMode (h : SameShape a b) (source target : Text) :
    Agree SameShape (a.copyMode source target) (b.copyMode source target) := by
  refine (h.agree_entryAt source).bind fun entry entry' _ => ?_
  refine (h.agree_locate target).bind ?_
  rintro l _ rfl
  refine (h.agree_entryAt target).bind ?_
  rintro (_ | ⟨mode, bytes⟩) (_ | ⟨mode', bytes'⟩) hkind
  · exact h
  · exact absurd hkind (by simp [Entry.isDirectory])
  · exact absurd hkind (by simp [Entry.isDirectory])
  · exact h.put l rfl

theorem SameShape.agree_rename (h : SameShape a b) (source target : Text) :
    Agree SameShape (a.rename source target) (b.rename source target) := by
  unfold rename
  dsimp only
  rw [h.find_eq, h.find_eq]
  split
  · exact rfl
  · cases a.find source with
    | error e => exact rfl
    | ok l =>
      cases a.find target with
      | error e => exact rfl
      | ok m =>
        cases endsInName target with
        | false => exact rfl
        | true =>
          obtain ⟨ha, hb⟩ | ⟨entry, entry', ha, hb, hkind⟩ := h.none_or_some l
          · simp only [ha, hb]
            exact rfl
          · obtain ⟨ha', hb'⟩ | ⟨ha', hb'⟩ | ⟨_, _, _, _, ha', hb'⟩ := h.cases m <;>
              simp only [ha, hb, ha', hb']
            · exact (h.erase l).put m hkind
            · exact rfl
            · exact (h.erase l).put m hkind

end Disk

/-! ## Sequences of operations -/

namespace DiskAction

open Disk

/-- A sequence of operations gives the same result on disks of the same shape and leaves them so. -/
def Alike {α : Type} (action : DiskAction α) : Prop :=
  ∀ ⦃a b : Disk⦄, SameShape a b →
    Ends action a fun result after => Ends action b fun result' after' =>
      result' = result ∧ SameShape after after'

variable {α β : Type}

theorem alike_pure (x : α) : Alike (pure x) := fun _ _ h => ⟨rfl, h⟩

theorem Alike.bind {action : DiskAction α} {next : α → DiskAction β} (h : Alike action)
    (hnext : ∀ x, Alike (next x)) : Alike (action >>= next) := by
  intro a b hab
  refine ends_bind.2 ((h hab).mono ?_)
  rintro (e | x) middle ⟨hresult, hshape⟩
  · refine ends_bind.2 ?_
    rw [Ends, hresult]
    exact ⟨rfl, hshape⟩
  · refine (hnext x hshape).mono fun result after hafter => ends_bind.2 ?_
    rw [Ends, hresult]
    exact hafter

theorem alike_ask {query : Disk → Except SystemError α}
    (h : ∀ a b, SameShape a b → query b = query a) : Alike (ask query) := by
  intro a b hab
  rw [ends_ask, ends_ask, h a b hab]
  exact ⟨rfl, hab⟩

theorem alike_change {update : Disk → Except DiskFault Disk}
    (h : ∀ a b, SameShape a b → Agree SameShape (update a) (update b)) :
    Alike (change update) := by
  intro a b hab
  have hagree := h a b hab
  rw [ends_change]
  cases ha : update a <;> cases hb : update b <;> rw [ha, hb] at hagree <;>
    simp only [ends_change, hb]
  · exact ⟨congrArg _ hagree, hab⟩
  · exact hagree.elim
  · exact hagree.elim
  · exact ⟨trivial, hagree⟩

/-! ## Temporary names -/

theorem length_tagAlphabet : tagAlphabet.length = 37 := by decide +kernel

theorem nodup_tagAlphabet : tagAlphabet.Nodup := by decide +kernel

/-- Numbers that agree on their lowest digits agree up to multiples of a power. -/
theorem mod_pow_eq_of_digits {base n m : Nat} (places : Nat)
    (h : ∀ place < places, n / base ^ place % base = m / base ^ place % base) :
    n % base ^ places = m % base ^ places := by
  induction places with
  | zero => simp [Nat.mod_one]
  | succ places ih =>
    rw [Nat.mod_pow_succ, Nat.mod_pow_succ, h places (Nat.lt_succ_self _),
      ih fun place hplace => h place (Nat.lt_succ_of_lt hplace)]

/-- The numbers that tags can write. -/
def tagCount : Nat := 37 ^ 8

theorem tag_injective {n m : Nat} (hn : n < tagCount) (hm : m < tagCount) (h : tag n = tag m) :
    n = m := by
  have hdigits : ∀ place < 8, n / 37 ^ place % 37 = m / 37 ^ place % 37 := by
    intro place hplace
    have hchar := List.map_inj_left.1 h place (List.mem_range.2 hplace)
    have hlt : ∀ k, k % 37 < tagAlphabet.length := by
      intro k
      rw [length_tagAlphabet]
      exact Nat.mod_lt _ (by omega)
    rw [length_tagAlphabet, List.getD_eq_getElem _ _ (hlt _), List.getD_eq_getElem _ _ (hlt _)]
      at hchar
    exact (nodup_tagAlphabet.getElem_inj_iff).1 hchar
  have hmod : n % tagCount = m % tagCount := mod_pow_eq_of_digits 8 hdigits
  rwa [Nat.mod_eq_of_lt hn, Nat.mod_eq_of_lt hm] at hmod

/-- Larger numbers have the tags of smaller ones. -/
theorem tag_mod (n : Nat) : tag (n % tagCount) = tag n := by
  refine List.map_congr_left fun place hplace => ?_
  have hplace : place < 8 := List.mem_range.1 hplace
  have hpow : tagCount = 37 ^ place * 37 ^ (8 - place) := by
    rw [← Nat.pow_add, Nat.add_sub_cancel' (by omega)]
    rfl
  have hdvd : 37 ∣ 37 ^ (8 - place) :=
    Nat.dvd_of_pow_dvd (k := 8 - place) (by omega) (Nat.dvd_refl _)
  rw [length_tagAlphabet]
  show tagAlphabet.getD (n % tagCount / 37 ^ place % 37) 'a' = _
  rw [hpow, Nat.mod_mul_right_div_self, Nat.mod_mod_of_dvd _ hdvd]
  rfl

theorem mem_keys_of_get? {disk : Disk} {l : Location} (hl : l ≠ []) (h : (disk.get? l).isSome) :
    l ∈ disk.entries.map Prod.fst := by
  rw [get?, if_neg hl] at h
  generalize disk.entries = entries at h
  induction entries with
  | nil => simp [lookup] at h
  | cons entry entries ih =>
    obtain ⟨k, e⟩ := entry
    rw [lookup] at h
    split at h
    · simp [‹k = l›]
    · exact List.mem_cons_of_mem _ (ih h)

/-- The location of a numbered temporary file. -/
def temporaryLocation (folder : Location) (name : Text) (n : Nat) : Location :=
  folder ++ [temporaryName name (tag n)]

/-- If more numbers are taken than there are entries, then all are. -/
theorem all_taken {disk : Disk} {folder : Location} {name : Text}
    (h : ∀ n < disk.entries.length + 1, (disk.get? (temporaryLocation folder name n)).isSome)
    (n : Nat) : (disk.get? (temporaryLocation folder name n)).isSome := by
  by_cases hle : tagCount ≤ disk.entries.length + 1
  · have hlt : n % tagCount < tagCount := Nat.mod_lt _ (by decide)
    have := h (n % tagCount) (by omega)
    rwa [temporaryLocation, tag_mod] at this
  · -- as many different locations do not fit into the entries
    have hnodup : ((List.range (disk.entries.length + 1)).map
        (temporaryLocation folder name)).Nodup := by
      refine List.Nodup.map_on ?_ List.nodup_range
      intro i hi j hj hij
      rw [List.mem_range] at hi hj
      refine tag_injective (by omega) (by omega) ?_
      simpa [temporaryLocation, temporaryName] using hij
    have hsubset : (List.range (disk.entries.length + 1)).map (temporaryLocation folder name) ⊆
        disk.entries.map Prod.fst := by
      intro l hl
      obtain ⟨i, hi, rfl⟩ := List.mem_map.1 hl
      exact mem_keys_of_get? (by simp [temporaryLocation]) (h i (List.mem_range.1 hi))
    have hlength := (List.subperm_of_subset hnodup hsubset).length_le
    rw [List.length_map, List.length_map, List.length_range] at hlength
    omega

/-- A search that finds nothing below a bound finds nothing at all; then the bound does not
matter. -/
theorem find?_range_eq {p : Nat → Bool} {m n : Nat}
    (hm : (∀ i < m, p i = false) → ∀ i, p i = false)
    (hn : (∀ i < n, p i = false) → ∀ i, p i = false) :
    (List.range m).find? p = (List.range n).find? p := by
  cases hfind : (List.range m).find? p with
  | none =>
    have hall := hm fun i hi => by
      simpa using List.find?_eq_none.1 hfind i (List.mem_range.2 hi)
    exact (List.find?_eq_none.2 fun i _ => by simp [hall i]).symm
  | some i =>
    obtain ⟨hi, -, hleast⟩ := List.find?_range_eq_some.1 hfind
    refine (List.find?_range_eq_some.2 ⟨hi, List.mem_range.2 ?_, hleast⟩).symm
    by_contra hle
    have hnone := hn fun j hj => by simpa using hleast j (by omega)
    simp [hnone i] at hi

/-- The temporary path beside a path depends on the shape of the disk only. -/
theorem temporaryPath_eq {a b : Disk} (h : SameShape a b) (path : Path) :
    temporaryPath b path = temporaryPath a path := by
  have hfree : ∀ l, (b.get? l).isNone = (a.get? l).isNone := by
    intro l
    obtain ⟨ha, hb⟩ | ⟨entry, entry', ha, hb, -⟩ := h.none_or_some l
    · rw [ha, hb]
    · rw [ha, hb, Option.isNone_some, Option.isNone_some]
  have hall : ∀ (disk : Disk) (folder : Location),
      (∀ n < disk.entries.length + 1,
        (disk.get? (temporaryLocation folder path.name n)).isNone = false) →
      ∀ n, (disk.get? (temporaryLocation folder path.name n)).isNone = false := by
    intro disk folder htaken n
    simp only [Option.isNone_eq_false_iff] at htaken ⊢
    exact all_taken htaken n
  unfold temporaryPath
  rw [h.workdir]
  dsimp only
  simp only [hfree]
  have hsearch := @find?_range_eq
    (fun n => (a.get? (temporaryLocation (path.parent.resolve a.workdir).parts path.name n)).isNone)
    (b.entries.length + 1) (a.entries.length + 1)
    (by have := hall b (path.parent.resolve a.workdir).parts; simpa only [hfree] using this)
    (hall a _)
  unfold temporaryLocation at hsearch
  rw [hsearch]

theorem alike_createTemporary (path : Path) : Alike (createTemporary path) := by
  intro a b hab
  have hcreate : Alike (do
      change fun disk => disk.createFile (temporaryPath a path)
      pure (temporaryPath a path)) :=
    (alike_change fun a b h => h.agree_createFile _).bind fun _ => alike_pure _
  have hb := hcreate hab
  unfold createTemporary
  rw [ends_bind, ends_get]
  dsimp only
  refine hb.mono fun result after hafter => ?_
  rw [ends_bind, ends_get]
  dsimp only
  rw [temporaryPath_eq hab]
  exact hafter

end DiskAction

/-! ## Writes -/

namespace Writer

open DiskAction

theorem alike_replace (temporary target : Text) (bytes : List UInt8) :
    Alike (replace temporary target bytes) := by
  unfold replace
  have hmove : Alike (change fun disk => disk.rename temporary target) :=
    alike_change fun a b h => h.agree_rename _ _
  refine (alike_change fun a b h => h.agree_writeFile _ _).bind fun _ => ?_
  refine (alike_ask fun a b h => h.exists?_eq _).bind fun there => ?_
  cases there with
  | false => exact hmove
  | true => exact (alike_change fun a b h => h.agree_copyMode _ _).bind fun _ => hmove

/-- Puts a file in its place, below directories that are there. -/
def place (atomic : Bool) (path : Path) (bytes : List UInt8) : DiskAction Unit :=
  if atomic then do
    let temporary ← createTemporary path
    replace temporary path.toText bytes
  else change fun disk => disk.writeFile path.toText bytes

/-- A file is put in its place on one disk as on another of the same shape. -/
theorem alike_place (atomic : Bool) (path : Path) (bytes : List UInt8) :
    Alike (place atomic path bytes) := by
  unfold place
  cases atomic with
  | true => exact (alike_createTemporary path).bind fun temporary => alike_replace _ _ _
  | false => exact alike_change fun a b h => h.agree_writeFile _ _

end Writer
end StubGraft
