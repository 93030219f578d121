import StubGraft.Text.Utf8

/-!
# Disks

A disk is a tree of directories and files, given by what stands at each location, with a
working directory.  There are no links and no permissions that could refuse an operation.

Main notions:

* `Location`: the names that lead to an entry from the top of the tree;
* `Entry`: a directory, or a file with its mode and bytes;
* `Disk.get?`, `Disk.put`, `Disk.erase`: what stands at a location.
-/

namespace StubGraft

/-- The names that lead to an entry from the top of the tree. -/
abbrev Location := List Text

/-- What stands at a location. -/
inductive Entry where
  /-- A directory. -/
  | directory
  /-- A file with its mode and its bytes. -/
  | file (mode : Nat) (bytes : List UInt8)
  deriving DecidableEq, Repr

/-- A tree of directories and files. -/
structure Disk where
  /-- The directory that relative paths start from. -/
  workdir : Location
  /-- The entries below the top of the tree. -/
  entries : List (Location × Entry)

namespace Disk

/-- The mode of a file that is created by writing to it. -/
def defaultMode : Nat := 0o644

/-- The mode of a temporary file. -/
def privateMode : Nat := 0o600

/-- The entry of a location in a list of entries. -/
def lookup (l : Location) : List (Location × Entry) → Option Entry
  | [] => none
  | (k, e) :: rest => if k = l then some e else lookup l rest

/-- A list of entries with one set: in place if its location is there, else at the end. -/
def setEntry (l : Location) (entry : Entry) : List (Location × Entry) → List (Location × Entry)
  | [] => [(l, entry)]
  | (k, e) :: rest => if k = l then (k, entry) :: rest else (k, e) :: setEntry l entry rest

/-- What stands at a location; the top of the tree is a directory. -/
def get? (disk : Disk) (l : Location) : Option Entry :=
  if l = [] then some .directory else lookup l disk.entries

/-- The disk with an entry at a location. -/
def put (disk : Disk) (l : Location) (entry : Entry) : Disk :=
  { disk with entries := setEntry l entry disk.entries }

/-- The disk with nothing at a location. -/
def erase (disk : Disk) (l : Location) : Disk :=
  { disk with entries := disk.entries.filter fun entry => entry.1 ≠ l }

/-- The disk with new bytes in a file; a file that is there keeps its mode. -/
def putBytes (disk : Disk) (l : Location) (bytes : List UInt8) : Disk :=
  match disk.get? l with
  | some (.file mode _) => disk.put l (.file mode bytes)
  | _ => disk.put l (.file defaultMode bytes)

/-- The disk with all directories above a location. -/
def putAncestors (disk : Disk) (l : Location) : Disk :=
  (List.range l.length).foldl
    (fun disk n => if n = 0 then disk else disk.put (l.take n) .directory) disk

/-! ## What the operations do to the entries -/

theorem lookup_setEntry (l m : Location) (entry : Entry) (entries : List (Location × Entry)) :
    lookup m (setEntry l entry entries) = if m = l then some entry else lookup m entries := by
  induction entries with
  | nil =>
    by_cases h : m = l
    · simp [setEntry, lookup, h]
    · have h' : ¬l = m := fun e => h e.symm
      simp [setEntry, lookup, h, h']
  | cons first rest ih =>
    obtain ⟨k, e⟩ := first
    by_cases hk : k = l
    · by_cases h : m = l
      · simp [setEntry, lookup, hk, h]
      · have h' : ¬l = m := fun e => h e.symm
        simp [setEntry, lookup, hk, h, h']
    · by_cases h : k = m
      · subst h
        simp [setEntry, lookup, hk]
      · simp [setEntry, lookup, hk, h, ih]

/-- Putting an entry changes what stands at that location only. -/
theorem get?_put (disk : Disk) {l : Location} (hl : l ≠ []) (m : Location) (entry : Entry) :
    (disk.put l entry).get? m = if m = l then some entry else disk.get? m := by
  by_cases hm : m = []
  · have h : ¬[] = l := fun e => hl e.symm
    simp [get?, hm, h]
  · simp [get?, put, hm, lookup_setEntry]

theorem lookup_filter_ne (l m : Location) (entries : List (Location × Entry)) :
    lookup m (entries.filter fun entry => decide (entry.1 ≠ l)) =
      if m = l then none else lookup m entries := by
  induction entries with
  | nil => simp [lookup]
  | cons first rest ih =>
    obtain ⟨k, e⟩ := first
    by_cases hk : k = l
    · by_cases h : m = l
      · simpa [hk, h] using ih
      · have h' : ¬l = m := fun e => h e.symm
        simpa [hk, h, h', lookup] using ih
    · by_cases h : k = m
      · subst h
        simp [hk, lookup]
      · simpa [hk, h, lookup] using ih

/-- Erasing changes what stands at that location only. -/
theorem get?_erase (disk : Disk) {l : Location} (hl : l ≠ []) (m : Location) :
    (disk.erase l).get? m = if m = l then none else disk.get? m := by
  by_cases hm : m = []
  · have h : ¬[] = l := fun e => hl e.symm
    simp [get?, hm, h]
  · simp only [get?, erase, hm, if_false]
    exact lookup_filter_ne l m disk.entries

end Disk
end StubGraft
