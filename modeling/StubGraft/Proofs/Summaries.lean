import StubGraft.Proofs.Remerging

/-!
# What a summary says of a merge

A summary is made from two models without merging them, and the imports that are still to be placed
are found by looking at the lines of the new file.  Four functions thus sort the same names and
lines, each in its own way.  Here they are shown to agree, in content and in order.

* `mergeImports_eq_append` — the imports of a merge are those of the new file and the carried ones.
* `pendingImports_merge` — the pending imports are carried ones.
* `Summary.Tells` — a summary and a merge agree.
* `summarize_tells_merge` — they do, for any two files.
-/

namespace StubGraft

/-- A summary says of a merge what becomes of each stub and of each import. -/
structure Summary.Tells (old new : Model) (merged : Merged) (events : List Event)
    (summary : Summary) : Prop where
  /-- Every stub of the new file is preserved or adopted, and none is both. -/
  partition : (summary.preserved ++ summary.adopted).Perm new.stubs.names
  /-- The preserved stubs are listed in the order of the new file. -/
  preserved_ordered : summary.preserved.Sublist new.stubs.names
  /-- So are the adopted ones. -/
  adopted_ordered : summary.adopted.Sublist new.stubs.names
  /-- The merge has the stubs of the new file, in their order. -/
  names : merged.stubs.names = new.stubs.names
  /-- A preserved stub has an old body and gets it. -/
  kept : ∀ name ∈ summary.preserved, ∃ body,
    old.stubs.body? name = some body ∧ merged.stubs.body? name = some body
  /-- An adopted stub has no old body and gets the new one. -/
  taken : ∀ name ∈ summary.adopted, old.stubs.body? name = none ∧ ∃ body,
    new.stubs.body? name = some body ∧ merged.stubs.body? name = some body
  /-- The dropped stubs are the old ones that the merge lacks, in their old order. -/
  dropped : summary.dropped = old.stubs.names.filter (· ∉ merged.stubs.names)
  /-- There is one warning about each of them, in the same order, and no other event. -/
  warned : events = summary.dropped.map .droppedStub ∧ ∀ event ∈ events, event.level = .warning
  /-- The imports of the merge are those of the new file and then the carried ones. -/
  imports : merged.imports = mergeImports old new ∧
    mergeImports old new = new.imports ++ summary.carriedImports
  /-- None of them is listed twice. -/
  distinct : (mergeImports old new).Nodup
  /-- The imports of the old file are carried, in their old order, unless the new file has them. -/
  carried : summary.carriedImports.Sublist old.imports ∧
    ∀ line, line ∈ summary.carriedImports ↔ line ∈ old.imports ∧ line ∉ new.imports
  /-- The pending imports are the carried ones that are no line of the new file. -/
  pending : pendingImports new merged = summary.carriedImports.filter (· ∉ new.lines)

/-! ## Stubs -/

section Stubs

variable {old new : Model} {name : Text}

theorem mem_preserved_iff :
    name ∈ (summarize old new).preserved ↔
      name ∈ new.stubs.names ∧ (old.stubs.body? name).isSome = true := by
  simp [summarize, StubTable.contains]

theorem mem_adopted_iff :
    name ∈ (summarize old new).adopted ↔
      name ∈ new.stubs.names ∧ old.stubs.body? name = none := by
  simp [summarize, StubTable.contains]

/-- A preserved stub gets its old body. -/
theorem body?_mergeStubs_of_preserved (h : name ∈ (summarize old new).preserved) :
    ∃ body, old.stubs.body? name = some body ∧ (mergeStubs old new).body? name = some body := by
  obtain ⟨hnew, hold⟩ := mem_preserved_iff.1 h
  obtain ⟨body, hbody⟩ := Option.isSome_iff_exists.1 hold
  obtain ⟨generated, hgenerated⟩ :=
    Option.isSome_iff_exists.1 ((new.stubs.mem_names_iff name).1 hnew)
  refine ⟨body, hbody, ?_⟩
  rw [body?_mergeStubs, hgenerated, hbody]
  rfl

/-- An adopted stub gets its new body. -/
theorem body?_mergeStubs_of_adopted (h : name ∈ (summarize old new).adopted) :
    old.stubs.body? name = none ∧ ∃ body, new.stubs.body? name = some body ∧
      (mergeStubs old new).body? name = some body := by
  obtain ⟨hnew, hold⟩ := mem_adopted_iff.1 h
  obtain ⟨generated, hgenerated⟩ :=
    Option.isSome_iff_exists.1 ((new.stubs.mem_names_iff name).1 hnew)
  refine ⟨hold, generated, hgenerated, ?_⟩
  rw [body?_mergeStubs, hgenerated, hold]
  rfl

/-- The stubs that are dropped are those that the merge lacks. -/
theorem droppedStubs_eq (old new : Model) :
    droppedStubs old new = old.stubs.names.filter (· ∉ (mergeStubs old new).names) := by
  have hnames : (mergeStubs old new).names = new.stubs.names := StubTable.names_mapBodies _ _
  rw [droppedStubs, hnames]
  apply List.filter_congr
  intro name _
  rw [Bool.eq_iff_iff, decide_eq_true_iff, ← StubTable.contains_iff, Bool.not_eq_true',
    Bool.not_eq_true]

end Stubs

/-! ## Imports -/

section Imports

variable {old new : Model}

theorem mem_carriedImports_iff {line : Text} :
    line ∈ (summarize old new).carriedImports ↔ line ∈ old.imports ∧ line ∉ new.imports := by
  simp [summarize]

/-- The imports of a merge are those of the new file and then the carried ones. -/
theorem mergeImports_eq_append (hold : old.imports.Nodup) (hnew : new.imports.Nodup) :
    mergeImports old new = new.imports ++ (summarize old new).carriedImports := by
  rw [mergeImports, Text.distinct_append, Text.distinct_of_nodup hnew, Text.distinct_of_nodup hold]
  simp [summarize]

/-- What a merge has still to place is carried: every import of the new file is a line of it. -/
theorem pendingImports_merge (hold : old.imports.Nodup) (hnew : new.imports.Nodup)
    (hlines : ∀ line ∈ new.imports, line ∈ new.lines) :
    pendingImports new (merge old new).1 =
      (summarize old new).carriedImports.filter (· ∉ new.lines) := by
  have hnone : new.imports.filter (fun line => !new.lines.contains line) = [] := by
    rw [List.filter_eq_nil_iff]
    intro line hline
    simpa using hlines line hline
  show (mergeImports old new).filter (fun line => !new.lines.contains line) = _
  rw [mergeImports_eq_append hold hnew, List.filter_append, hnone, List.nil_append]
  simp

end Imports

/-! ## Main result -/

/-- A summary and a merge agree if no import is listed twice and each is a line of its file. -/
theorem summarize_tells {old new : Model} (hold : old.imports.Nodup) (hnew : new.imports.Nodup)
    (hlines : ∀ line ∈ new.imports, line ∈ new.lines) :
    (summarize old new).Tells old new (merge old new).1 (merge old new).2 where
  partition := List.filter_append_perm _ _
  preserved_ordered := List.filter_sublist
  adopted_ordered := List.filter_sublist
  names := StubTable.names_mapBodies _ _
  kept := fun _ h => body?_mergeStubs_of_preserved h
  taken := fun _ h => body?_mergeStubs_of_adopted h
  dropped := droppedStubs_eq old new
  warned := by
    refine ⟨rfl, fun event hevent => ?_⟩
    obtain ⟨name, -, rfl⟩ := List.mem_map.1 hevent
    rfl
  imports := ⟨rfl, mergeImports_eq_append hold hnew⟩
  distinct := Text.nodup_distinct _
  carried := ⟨List.filter_sublist, fun _ => mem_carriedImports_iff⟩
  pending := pendingImports_merge hold hnew hlines

/-- The summary of any two scanned files tells exactly what their merge does.  Its preserved and
adopted stubs are those of the new file, in order, with the old body for the one and the new body
for the other; its dropped stubs are those that the merge lacks and warns of; its carried imports
are what the merge adds to those of the new file, and what is pending is carried. -/
theorem summarize_tells_merge (oldConvention newConvention : Convention) (oldText newText : Text) :
    let old := (scan oldConvention oldText).1
    let new := (scan newConvention newText).1
    (summarize old new).Tells old new (merge old new).1 (merge old new).2 := by
  intro old new
  apply summarize_tells
  · exact nodup_imports oldConvention oldText
  · exact nodup_imports newConvention newText
  · intro line hline
    exact mem_lines_of_mem_imports hline

end StubGraft
