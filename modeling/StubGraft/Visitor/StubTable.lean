import StubGraft.Text.Basic

/-!
# Stub tables

A stub table gives each stub name the lines of its body.  Names are listed in the order
in which they were first entered, and no name stands in it twice.

Main notions:

* `StubTable`: the table, with the promise that its names are distinct;
* `body?`: the body of a name;
* `insert`: enters a body, in place of an earlier one of the same name;
* `mapBodies`: changes bodies and keeps names and order.
-/

namespace StubGraft

/-- Stub names with the lines of their bodies, in order of first entry. -/
structure StubTable where
  /-- The names and bodies. -/
  entries : List (Text × List Text)
  /-- No name stands twice. -/
  nodup : (entries.map Prod.fst).Nodup

namespace StubTable

/-- The table without stubs. -/
def empty : StubTable := ⟨[], List.nodup_nil⟩

/-- The names in order. -/
def names (table : StubTable) : List Text := table.entries.map Prod.fst

/-- The number of stubs. -/
def size (table : StubTable) : Nat := table.entries.length

/-- The body of a name in a list of names and bodies. -/
def lookup (name : Text) : List (Text × List Text) → Option (List Text)
  | [] => none
  | (key, body) :: rest => if key = name then some body else lookup name rest

/-- The body recorded for a name. -/
def body? (table : StubTable) (name : Text) : Option (List Text) := lookup name table.entries

/-- Whether a name is recorded. -/
def contains (table : StubTable) (name : Text) : Bool := (table.body? name).isSome

/-- A list of names and bodies with a body set: in place if the name is there, else at the end. -/
def set (name : Text) (body : List Text) : List (Text × List Text) → List (Text × List Text)
  | [] => [(name, body)]
  | (key, old) :: rest =>
    if key = name then (key, body) :: rest else (key, old) :: set name body rest

theorem mem_keys_set {name : Text} {body : List Text} {entries : List (Text × List Text)}
    {key : Text} (h : key ∈ (set name body entries).map Prod.fst) :
    key = name ∨ key ∈ entries.map Prod.fst := by
  induction entries with
  | nil => simpa [set] using h
  | cons entry rest ih =>
    by_cases he : entry.1 = name
    · simp only [set, he, if_true, List.map_cons, List.mem_cons] at h ⊢
      rcases h with h | h
      · exact Or.inl h
      · exact Or.inr (Or.inr h)
    · simp only [set, he, if_false, List.map_cons, List.mem_cons] at h ⊢
      rcases h with h | h
      · exact Or.inr (Or.inl h)
      · rcases ih h with h | h
        · exact Or.inl h
        · exact Or.inr (Or.inr h)

theorem nodup_keys_set {name : Text} {body : List Text} {entries : List (Text × List Text)}
    (h : (entries.map Prod.fst).Nodup) : ((set name body entries).map Prod.fst).Nodup := by
  induction entries with
  | nil => simp [set]
  | cons entry rest ih =>
    by_cases he : entry.1 = name
    · simpa [set, he] using h
    · simp only [List.map_cons, List.nodup_cons] at h
      simp only [set, he, if_false, List.map_cons, List.nodup_cons]
      refine ⟨fun hm => ?_, ih h.2⟩
      rcases mem_keys_set hm with hn | hr
      · exact he hn
      · exact h.1 hr

/-- The table with a body recorded for a name: in place of the earlier one, or at the end. -/
def insert (table : StubTable) (name : Text) (body : List Text) : StubTable :=
  ⟨set name body table.entries, nodup_keys_set table.nodup⟩

/-- The table of a list of names and bodies; of equal names the last body counts, at the place of
the first. -/
def ofList (entries : List (Text × List Text)) : StubTable :=
  entries.foldl (fun table entry => table.insert entry.1 entry.2) empty

/-- The table with every body changed by `f`, and the same names in the same order. -/
def mapBodies (table : StubTable) (f : Text → List Text → List Text) : StubTable :=
  ⟨table.entries.map fun entry => (entry.1, f entry.1 entry.2), by
    have h : (table.entries.map fun entry => (entry.1, f entry.1 entry.2)).map Prod.fst
        = table.entries.map Prod.fst := by
      simp [Function.comp_def]
    rw [h]
    exact table.nodup⟩

/-! ## What the operations do to names and bodies -/

@[simp] theorem lookup_set (name key : Text) (body : List Text)
    (entries : List (Text × List Text)) :
    lookup key (set name body entries) = if key = name then some body else lookup key entries := by
  induction entries with
  | nil =>
    by_cases h : key = name
    · simp [set, lookup, h]
    · have h' : ¬name = key := fun e => h e.symm
      simp [set, lookup, h, h']
  | cons entry rest ih =>
    obtain ⟨k, old⟩ := entry
    by_cases hk : k = name
    · by_cases h : key = name
      · simp [set, lookup, hk, h]
      · have h' : ¬name = key := fun e => h e.symm
        simp [set, lookup, hk, h, h']
    · by_cases h : k = key
      · subst h
        simp [set, lookup, hk]
      · simp [set, lookup, hk, h, ih]

@[simp] theorem body?_empty (name : Text) : empty.body? name = none := rfl

/-- Entering a body changes the body of that name only. -/
@[simp] theorem body?_insert (table : StubTable) (name key : Text) (body : List Text) :
    (table.insert name body).body? key = if key = name then some body else table.body? key :=
  lookup_set name key body table.entries

/-- A name is listed exactly if it has a body. -/
theorem mem_names_iff (table : StubTable) (name : Text) :
    name ∈ table.names ↔ (table.body? name).isSome = true := by
  unfold names body?
  induction table.entries with
  | nil => simp [lookup]
  | cons entry rest ih =>
    obtain ⟨k, body⟩ := entry
    by_cases h : k = name
    · simp [lookup, h]
    · have h' : ¬name = k := fun e => h e.symm
      simp [lookup, h, h', ih]

@[simp] theorem names_mapBodies (table : StubTable) (f : Text → List Text → List Text) :
    (table.mapBodies f).names = table.names := by
  simp [names, mapBodies, Function.comp_def]

theorem lookup_map (f : Text → List Text → List Text) (name : Text)
    (entries : List (Text × List Text)) :
    lookup name (entries.map fun entry => (entry.1, f entry.1 entry.2)) =
      (lookup name entries).map (f name) := by
  induction entries with
  | nil => rfl
  | cons entry rest ih =>
    obtain ⟨k, body⟩ := entry
    by_cases h : k = name
    · simp [lookup, h]
    · simpa [lookup, h] using ih

@[simp] theorem body?_mapBodies (table : StubTable) (f : Text → List Text → List Text)
    (name : Text) : (table.mapBodies f).body? name = (table.body? name).map (f name) :=
  lookup_map f name table.entries

end StubTable
end StubGraft
