import StubGraft.Proofs.Shapes

/-!
# What a tool leaves on a disk

The tool writes and deletes files, and the directories above a file that it writes are made.  What
stands at a location afterwards is what the last edit that concerns the location has left there, or,
if there is none, what stood there before.  So a tool that runs twice leaves a disk of the same
shape twice.

* `Tool.leaves?` — what a tool leaves at a location that it changes.
* `Tool.content?_edited` — nothing else changes.
* `Tool.sameShape_edited` — a second run keeps the shape that the first has left.
* `Tool.holdsAt_edited` — and the files that the tool changes.
-/

namespace StubGraft

/-! ## Contents -/

/-- What an entry is but for its mode. -/
inductive Content where
  /-- A directory. -/
  | directory
  /-- A file with its bytes. -/
  | file (bytes : List UInt8)
  deriving DecidableEq, Repr

/-- The content of an entry. -/
def Entry.content : Entry → Content
  | .directory => .directory
  | .file _ bytes => .file bytes

/-- The content of what stands at a location. -/
def Disk.content? (disk : Disk) (l : Location) : Option Content := (disk.get? l).map Entry.content

namespace Disk

variable {disk a b : Disk} {l m : Location}

theorem content?_eq_file_iff {bytes : List UInt8} :
    disk.content? l = some (.file bytes) ↔ ∃ mode, disk.get? l = some (.file mode bytes) := by
  rw [content?]
  rcases disk.get? l with _ | (_ | ⟨mode, old⟩) <;> simp [Entry.content]

theorem map_isDirectory_of_content? (h : b.content? l = a.content? l) :
    (b.get? l).map Entry.isDirectory = (a.get? l).map Entry.isDirectory := by
  have hkind : Entry.isDirectory = (fun content => content == .directory) ∘ Entry.content := by
    funext entry
    cases entry <;> rfl
  rw [hkind, ← Option.map_map, ← Option.map_map]
  exact congrArg (Option.map _) h

theorem content?_put (disk : Disk) (l m : Location) (entry : Entry) :
    (disk.put l entry).content? m =
      if m ≠ [] ∧ m = l then some entry.content else disk.content? m := by
  rw [content?, content?]
  by_cases hl : l = []
  · rw [hl, get?_put_nil, if_neg fun h => h.1 h.2]
  · rw [get?_put disk hl]
    by_cases hm : m = l
    · rw [if_pos hm, if_pos ⟨hm ▸ hl, hm⟩]
      rfl
    · rw [if_neg hm, if_neg fun h => hm h.2]

theorem content?_erase (disk : Disk) (l m : Location) :
    (disk.erase l).content? m = if m ≠ [] ∧ m = l then none else disk.content? m := by
  rw [content?, content?]
  by_cases hl : l = []
  · rw [hl, get?_erase_nil, if_neg fun h => h.1 h.2]
  · rw [get?_erase disk hl]
    by_cases hm : m = l
    · rw [if_pos hm, if_pos ⟨hm ▸ hl, hm⟩]
      rfl
    · rw [if_neg hm, if_neg fun h => hm h.2]

/-! ## Directories above a file -/

/-- The directories that are put above a location so far. -/
theorem content?_foldl_put (disk : Disk) (l m : Location) (count : Nat) :
    ((List.range count).foldl
        (fun disk n => if n = 0 then disk else disk.put (l.take n) .directory) disk).content? m =
      if m ≠ [] ∧ ∃ n < count, m = l.take n then some .directory else disk.content? m := by
  induction count with
  | zero => simp
  | succ count ih =>
    rw [List.range_succ, List.foldl_append, List.foldl_cons, List.foldl_nil]
    by_cases hzero : count = 0
    · subst hzero
      simp +contextual
    · rw [if_neg hzero, content?_put, ih]
      by_cases hm : m ≠ [] ∧ m = l.take count
      · rw [if_pos hm, if_pos ⟨hm.1, count, by omega, hm.2⟩]
        rfl
      · rw [if_neg hm]
        congr 1
        simp only [eq_iff_iff, and_congr_right_iff]
        intro hne
        constructor
        · rintro ⟨n, hn, he⟩
          exact ⟨n, by omega, he⟩
        · rintro ⟨n, hn, he⟩
          have : n ≠ count := fun h => hm ⟨hne, h ▸ he⟩
          exact ⟨n, by omega, he⟩

theorem workdir_putAncestors (disk : Disk) (l : Location) :
    (disk.putAncestors l).workdir = disk.workdir := by
  rw [putAncestors]
  generalize List.range l.length = ns
  induction ns generalizing disk with
  | nil => rfl
  | cons n ns ih =>
    rw [List.foldl_cons, ih]
    split <;> rfl

theorem content?_putAncestors (disk : Disk) (l m : Location) :
    (disk.putAncestors l).content? m =
      if m ≠ [] ∧ m <+: l ∧ m ≠ l then some .directory else disk.content? m := by
  rw [putAncestors, content?_foldl_put]
  congr 1
  simp only [eq_iff_iff, and_congr_right_iff]
  intro _
  constructor
  · rintro ⟨n, hn, rfl⟩
    have habove := List.take_prefix n l
    refine ⟨habove, fun he => ?_⟩
    have := congrArg List.length he
    rw [List.length_take] at this
    omega
  · rintro ⟨⟨rest, rfl⟩, hne⟩
    refine ⟨m.length, ?_, by simp⟩
    have : rest ≠ [] := fun he => hne (by simp [he])
    rw [List.length_append]
    have := List.length_pos_iff.2 this
    omega

theorem putFile_eq_put (disk : Disk) (l : Location) (bytes : List UInt8) (mode : Option Nat) :
    ∃ mode', disk.putFile l bytes mode = (disk.putAncestors l).put l (.file mode' bytes) := by
  unfold putFile
  cases mode with
  | some mode => exact ⟨mode, rfl⟩
  | none => exact ⟨_, putBytes_eq_put _ _ _⟩

end Disk

/-! ## Edits -/

/-- What an edit leaves at a location that it changes: nothing or some content. -/
def Edit.leaves? (folder l : Location) : Edit → Option (Option Content)
  | .write path bytes _ =>
    if l = [] then none
    else if l = Location.below folder path then some (some (.file bytes))
    else if l <+: Location.below folder path then some (some .directory)
    else none
  | .delete path => if l ≠ [] ∧ l = Location.below folder path then some none else none

theorem Edit.workdir_apply (folder : Location) (disk : Disk) (edit : Edit) :
    (edit.apply folder disk).workdir = disk.workdir := by
  cases edit with
  | delete path => rfl
  | write path bytes mode =>
    obtain ⟨mode', hput⟩ := disk.putFile_eq_put (Location.below folder path) bytes mode
    rw [Edit.apply, hput]
    exact Disk.workdir_putAncestors _ _

/-- An edit changes what it leaves something at. -/
theorem Edit.content?_apply (folder : Location) (disk : Disk) (edit : Edit) (l : Location) :
    (edit.apply folder disk).content? l = (edit.leaves? folder l).getD (disk.content? l) := by
  cases edit with
  | delete path =>
    rw [Edit.apply, Edit.leaves?, Disk.content?_erase]
    split <;> rfl
  | write path bytes mode =>
    obtain ⟨mode', hput⟩ := disk.putFile_eq_put (Location.below folder path) bytes mode
    rw [Edit.apply, Edit.leaves?, hput, Disk.content?_put, Disk.content?_putAncestors]
    by_cases hnil : l = []
    · simp [hnil]
    · by_cases hplace : l = Location.below folder path
      · rw [if_pos ⟨hnil, hplace⟩, if_neg hnil, if_pos hplace]
        rfl
      · by_cases habove : l <+: Location.below folder path
        · simp [hnil, hplace, habove]
        · simp [hnil, hplace, habove]

/-! ## Tools -/

namespace Tool

/-- What a tool leaves at a location that it changes: what its last edit there leaves. -/
def leaves? (folder l : Location) : Tool → Option (Option Content)
  | .broken _ => none
  | .working edits _ _ _ => edits.foldl (fun known edit => (edit.leaves? folder l).or known) none

theorem workdir_edited (folder : Location) (disk : Disk) (tool : Tool) :
    (tool.edited folder disk).workdir = disk.workdir := by
  cases tool with
  | broken fault => rfl
  | working edits _ _ _ =>
    rw [edited]
    induction edits generalizing disk with
    | nil => rfl
    | cons edit edits ih => rw [List.foldl_cons, ih, Edit.workdir_apply]

/-- After a tool has run, what it has left stands at the locations that it has changed, and at all
others what stood there before. -/
theorem content?_edited (folder : Location) (disk : Disk) (tool : Tool) (l : Location) :
    (tool.edited folder disk).content? l = (tool.leaves? folder l).getD (disk.content? l) := by
  cases tool with
  | broken fault => rfl
  | working edits _ _ _ =>
    -- on the edits still to come, with what is known of those before
    have hfold : ∀ (known : Option (Option Content)) (middle : Disk),
        middle.content? l = known.getD (disk.content? l) →
        (edits.foldl (Edit.apply folder) middle).content? l =
          (edits.foldl (fun known edit => (edit.leaves? folder l).or known) known).getD
            (disk.content? l) := by
      induction edits with
      | nil => exact fun known middle h => h
      | cons edit edits ih =>
        intro known middle h
        rw [List.foldl_cons, List.foldl_cons]
        refine ih _ _ ?_
        rw [Edit.content?_apply, h]
        cases edit.leaves? folder l <;> rfl
    exact hfold none disk rfl

/-- Run again on a disk of the shape that it has left, a tool leaves that shape. -/
theorem sameShape_edited {folder : Location} {tool : Tool} {a b : Disk}
    (h : Disk.SameShape (tool.edited folder a) b) :
    Disk.SameShape (tool.edited folder a) (tool.edited folder b) := by
  refine ⟨(workdir_edited folder b tool).trans h.workdir, fun l => ?_⟩
  have ha := content?_edited folder a tool l
  have hb := content?_edited folder b tool l
  cases hleaves : tool.leaves? folder l with
  | some content =>
    rw [hleaves] at ha hb
    exact Disk.map_isDirectory_of_content? (hb.trans ha.symm)
  | none =>
    rw [hleaves] at hb
    exact (Disk.map_isDirectory_of_content? hb).trans (h.kind l)

theorem holdsAt_of_leaves? {folder l : Location} {tool : Tool} {disk : Disk} {path : Text}
    {bytes : List UInt8} (hlocate : (tool.edited folder disk).locate path = .ok l)
    (h : tool.leaves? folder l = some (some (.file bytes))) :
    (tool.edited folder disk).HoldsAt path l bytes := by
  refine ⟨hlocate, Disk.content?_eq_file_iff.1 ?_⟩
  rw [content?_edited, h]
  rfl

/-- Run again on a disk of the shape that it has left, a tool leaves the same file, unless it does
not change it. -/
theorem holdsAt_edited {folder l : Location} {tool : Tool} {a b : Disk} {path : Text}
    {bytes bytes' : List UInt8} (h : Disk.SameShape (tool.edited folder a) b)
    (ha : (tool.edited folder a).HoldsAt path l bytes)
    (hb : b.content? l = some (.file bytes')) :
    (tool.edited folder b).HoldsAt path l
      (if tool.leaves? folder l = none then bytes' else bytes) := by
  refine ⟨((sameShape_edited h).locate_eq path).trans ha.locate, Disk.content?_eq_file_iff.1 ?_⟩
  rw [content?_edited]
  cases hleaves : tool.leaves? folder l with
  | none => exact hb
  | some content =>
    have hbefore := content?_edited folder a tool l
    rw [hleaves, Disk.content?_eq_file_iff.2 ha.file] at hbefore
    exact hbefore.symm

end Tool
end StubGraft
