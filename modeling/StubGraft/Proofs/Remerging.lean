import StubGraft.Proofs.Imports

/-!
# Merging once more

A merged file can be merged again: as the edited file, when the same new file is generated once
more, or as the new file, when the same edits are merged into it once more.  Both settle.  What
has to be followed is the order of the imports and where they are looked for: they are pending if
they are no line of the new file, and a merge changes the lines of its bodies.

* `pendingImports_eq` — the pending imports, in order.
* `mergedLines_again` — the result of a merge, merged into the same new file, gives itself.
* `HasBodiesOf`, `EditsBody` — whether the stubs of a file have their edited bodies already.
* `mergedLines_eq_self` — then a merge changes nothing, as long as no import is missing.
-/

namespace StubGraft

/-! ## The pending imports in order -/

section Pending

variable {convention : Convention} {old new : Text}

theorem nodup_imports (convention : Convention) (text : Text) :
    (scan convention text).1.imports.Nodup := by
  rw [scan, scanLines_imports]
  exact Text.nodup_distinct _

/-- The pending imports are the imports of the edited file that are no line of the new one, in the
order of the edited file. -/
theorem pendingImports_eq (convention : Convention) (old new : Text) :
    pendingImports (scan convention new).1
        (merge (scan convention old).1 (scan convention new).1).1 =
      (scan convention old).1.imports.filter fun line => !new.splitLines.contains line := by
  have hnew : (scan convention new).1.imports.filter
      (fun line => !new.splitLines.contains line) = [] := by
    rw [List.filter_eq_nil_iff]
    intro line hline
    have := mem_lines_of_mem_imports hline
    simpa using this
  have hold : ((scan convention old).1.imports.filter
      fun line => !new.splitLines.contains line).Nodup :=
    (nodup_imports convention old).filter _
  show (Text.distinct ((scan convention new).1.imports ++
    (scan convention old).1.imports)).filter (fun line => !new.splitLines.contains line) = _
  rw [Text.filter_distinct, List.filter_append, hnew, List.nil_append,
    Text.distinct_of_nodup hold]

/-- Nothing is pending exactly if every import of the edited file is a line of the new one. -/
theorem pendingImports_eq_nil_iff :
    pendingImports (scan convention new).1
        (merge (scan convention old).1 (scan convention new).1).1 = [] ↔
      ∀ line ∈ (scan convention old).1.imports, line ∈ new.splitLines := by
  rw [pendingImports_eq, List.filter_eq_nil_iff]
  simp

theorem filter_singles_eq_nil {segs : List Segment}
    (h : ∀ seg ∈ segs, seg ∈ segments convention new.splitLines) :
    (singles segs).filter (fun line => !new.splitLines.contains line) = [] := by
  rw [List.filter_eq_nil_iff]
  intro line hline
  obtain ⟨seg, hseg, hsingle⟩ := List.mem_filterMap.1 hline
  have hmem : line ∈ singles (segments convention new.splitLines) :=
    List.mem_filterMap.2 ⟨seg, h seg hseg, hsingle⟩
  have := mem_linesOf_of_mem_singles hmem
  rw [linesOf_segments] at this
  simpa using this

/-- Outside of the blocks of a merged file only the pending imports are no lines of the new one. -/
theorem filter_singles_mergedSegments :
    (singles (mergedSegments convention old new)).filter
        (fun line => !new.splitLines.contains line) =
      (scan convention old).1.imports.filter fun line => !new.splitLines.contains line := by
  have htake := @filter_singles_eq_nil convention new
    ((segments convention new.splitLines).take
      (headerSegments convention.headerLines 0 (segments convention new.splitLines)))
    fun seg hseg => List.mem_of_mem_take hseg
  have hdrop := @filter_singles_eq_nil convention new
    ((segments convention new.splitLines).drop
      (headerSegments convention.headerLines 0 (segments convention new.splitLines)))
    fun seg hseg => List.mem_of_mem_drop hseg
  rw [mergedSegments, singles_graft, withPending, singles_append, singles_append,
    singles_importSegment, pendingImports_eq, List.filter_append, List.filter_append, htake, hdrop,
    List.filter_filter]
  simp

end Pending

/-! ## The result as the edited file -/

section Again

variable {convention : Convention} {old new once : Text}
  (hold : NoUnbalanced (scan convention old).2) (hnew : NoUnbalanced (scan convention new).2)
  (hheader : HeaderOutsideIgnored convention new)
  (hagree : AgreeOnEdges (scan convention old).1 (scan convention new).1)

include hold hnew hheader hagree in
/-- Of the imports of a merged file those that the new file lacks are the ones that were pending, in
the same order. -/
theorem filter_imports_mergedLines :
    (scanLines convention (mergedLines convention old new)).1.imports.filter
        (fun line => !new.splitLines.contains line) =
      (scan convention old).1.imports.filter fun line => !new.splitLines.contains line := by
  have himports : ∀ line ∈ (scan convention old).1.imports.filter
      (fun line => !new.splitLines.contains line), convention.isImport line = true := by
    intro line hline
    exact (mem_scanLines_imports.1 (List.mem_filter.1 hline).1).2
  rw [scanLines_imports, segments_mergedLines hold hnew hheader hagree, Text.filter_distinct,
    List.filter_comm, filter_singles_mergedSegments, List.filter_eq_self.2 himports]
  exact Text.distinct_of_nodup ((nodup_imports convention old).filter _)

/-- Merging bodies that are merged already changes none of them. -/
theorem mergeStubs_of_stubs {a b new : Model} (h : a.stubs = mergeStubs b new) :
    mergeStubs a new = mergeStubs b new := by
  refine StubTable.ext_entries (List.map_congr_left fun entry hentry => ?_)
  have hbody : new.stubs.body? entry.1 = some entry.2 := StubTable.body?_eq_some_iff.2 hentry
  simp [h, body?_mergeStubs, hbody]

include hold hnew hheader hagree in
/-- The result of a merge, merged into the same new file, gives the same lines. -/
theorem mergedLines_again (honce : once.splitLines = mergedLines convention old new) :
    mergedLines convention once new = mergedLines convention old new := by
  have hscan : scan convention once = scanLines convention (mergedLines convention old new) := by
    rw [scan, honce]
  have hstubs : mergeStubs (scan convention once).1 (scan convention new).1 =
      mergeStubs (scan convention old).1 (scan convention new).1 := by
    apply mergeStubs_of_stubs
    rw [hscan]
    exact stubs_mergedLines hold hnew hheader hagree
  have hpending : pendingImports (scan convention new).1
        (merge (scan convention once).1 (scan convention new).1).1 =
      pendingImports (scan convention new).1
        (merge (scan convention old).1 (scan convention new).1).1 := by
    rw [pendingImports_eq, pendingImports_eq, hscan]
    exact filter_imports_mergedLines hold hnew hheader hagree
  rw [mergedLines, hstubs, hpending, mergedLines]

end Again

/-- Texts with the same lines are the same. -/
theorem Text.eq_of_splitLines_eq {a b : Text} (h : a.splitLines = b.splitLines) : a = b := by
  rw [← Text.joinLines_splitLines a, h, Text.joinLines_splitLines]

theorem mergeTexts_eq_ok_iff {convention : Convention} {old new out : Text} :
    mergeTexts convention old new = .ok out ↔ out.splitLines = mergedLines convention old new := by
  obtain ⟨out', hout', hlines⟩ := mergeTexts_eq convention old new
  constructor
  · intro h
    obtain rfl : out' = out := Except.ok.inj (hout'.symm.trans h)
    exact hlines
  · intro h
    rw [hout', Text.eq_of_splitLines_eq (hlines.trans h.symm)]

/-! ## The result as the new file -/

/-- The stubs of a model have the bodies that another gives them, so a merge would change none. -/
def HasBodiesOf (old new : Model) : Prop := mergeStubs old new = new.stubs

/-- A stub that both files record has another body in the edited one. -/
def EditsBody (old new : Model) : Prop :=
  ∃ name body body', old.stubs.body? name = some body ∧ new.stubs.body? name = some body' ∧
    body ≠ body'

theorem hasBodiesOf_iff {old new : Model} : HasBodiesOf old new ↔ ¬ EditsBody old new := by
  constructor
  · rintro h ⟨name, body, body', hold, hnew, hne⟩
    have hmerged := body?_mergeStubs old new name
    rw [show mergeStubs old new = new.stubs from h, hnew, hold] at hmerged
    exact hne (by simpa using hmerged.symm)
  · intro h
    refine StubTable.ext_entries ?_
    have hentries : ∀ entry ∈ new.stubs.entries,
        (entry.1, (old.stubs.body? entry.1).getD entry.2) = entry := by
      intro entry hentry
      cases hold : old.stubs.body? entry.1 with
      | none => rfl
      | some body =>
        have hsame : body = entry.2 := by
          by_contra hne
          exact h ⟨entry.1, body, entry.2, hold, StubTable.body?_eq_some_iff.2 hentry, hne⟩
        rw [Option.getD_some, hsame]
    show new.stubs.entries.map _ = new.stubs.entries
    rw [List.map_congr_left hentries, List.map_id']

/-- A file keeps its parts when its stubs are given their own bodies. -/
theorem Model.HasParts.map_withBodies {model : Model} {parts : List Part}
    (h : model.HasParts parts) : parts.map (Part.withBodies model.stubs) = parts := by
  have hself : ∀ part ∈ parts, part.withBodies model.stubs = part := by
    intro part hpart
    cases part with
    | copied line => rfl
    | stub header body closer => simp [Part.withBodies, h.body? hpart]
  rw [List.map_congr_left hself, List.map_id']

section Settled

variable {convention : Convention} {old new : Text}

/-- Then a merge keeps all lines of the new file. -/
theorem mem_mergedLines_of_hasBodiesOf {line : Text}
    (h : HasBodiesOf (scan convention old).1 (scan convention new).1)
    (hline : line ∈ new.splitLines) : line ∈ mergedLines convention old new := by
  have hparts := scanLines_hasParts convention new.splitLines
  rw [mergedLines, mem_renderedLines, h]
  rw [← partLines_layoutOf convention new.splitLines, ← hparts.map_withBodies, partLines,
    List.mem_flatMap] at hline
  obtain ⟨_, hmapped, hmem⟩ := hline
  obtain ⟨part, hpart, rfl⟩ := List.mem_map.1 hmapped
  exact Or.inr ⟨part, hpart, hmem⟩

/-- Then a merge changes nothing, if every import of the edited file is a line of the new one. -/
theorem mergedLines_eq_self (h : HasBodiesOf (scan convention old).1 (scan convention new).1)
    (himports : ∀ line ∈ (scan convention old).1.imports, line ∈ new.splitLines) :
    mergedLines convention old new = new.splitLines := by
  have hparts := scanLines_hasParts convention new.splitLines
  rw [mergedLines, h, pendingImports_eq_nil_iff.2 himports, renderedLines_nil_pending]
  exact (congrArg partLines hparts.map_withBodies).trans (partLines_layoutOf convention _)

/-- If the bodies are those of the edited file already, the merge is the new file exactly if it
lacks no import. -/
theorem mergedLines_eq_self_iff
    (h : HasBodiesOf (scan convention old).1 (scan convention new).1) :
    mergedLines convention old new = new.splitLines ↔
      pendingImports (scan convention new).1
        (merge (scan convention old).1 (scan convention new).1).1 = [] := by
  constructor
  · intro hlines
    refine List.eq_nil_iff_forall_not_mem.2 fun line hline => ?_
    have hmem : line ∈ mergedLines convention old new := by
      rw [mergedLines, mem_renderedLines]
      exact Or.inl hline
    rw [pendingImports_eq, List.mem_filter] at hline
    exact absurd (hlines ▸ hmem) (by simpa using hline.2)
  · intro hpending
    exact mergedLines_eq_self h (pendingImports_eq_nil_iff.1 hpending)

/-- If no body was edited, the result of a merge is the new file exactly if no import is missing
there. -/
theorem eq_new_iff {once : Text} (honce : mergeTexts convention old new = .ok once)
    (h : ¬ EditsBody (scan convention old).1 (scan convention new).1) :
    once = new ↔ pendingImports (scan convention new).1
      (merge (scan convention old).1 (scan convention new).1).1 = [] := by
  have hlines := mergeTexts_eq_ok_iff.1 honce
  rw [← mergedLines_eq_self_iff (hasBodiesOf_iff.2 h), ← hlines]
  exact ⟨fun he => he ▸ rfl, Text.eq_of_splitLines_eq⟩

/-- Bodies that were merged are those that a second merge gives. -/
theorem hasBodiesOf_of_stubs {old new merged : Model} (h : merged.stubs = mergeStubs old new) :
    HasBodiesOf old merged := by
  refine StubTable.ext_entries ?_
  have hentries : ∀ entry ∈ merged.stubs.entries,
      (entry.1, (old.stubs.body? entry.1).getD entry.2) = entry := by
    intro entry hentry
    rw [h] at hentry
    obtain ⟨generated, -, rfl⟩ := List.mem_map.1 hentry
    cases hbody : old.stubs.body? generated.1 <;> simp [hbody]
  show merged.stubs.entries.map _ = merged.stubs.entries
  rw [List.map_congr_left hentries, List.map_id']

variable (hold : NoUnbalanced (scan convention old).2) (hnew : NoUnbalanced (scan convention new).2)
  (hheader : HeaderOutsideIgnored convention new)
  (hagree : AgreeOnEdges (scan convention old).1 (scan convention new).1)

include hold hnew hheader hagree in
theorem hasBodiesOf_mergedLines :
    HasBodiesOf (scan convention old).1
      (scanLines convention (mergedLines convention old new)).1 :=
  hasBodiesOf_of_stubs (stubs_mergedLines hold hnew hheader hagree)

include hold hnew hheader hagree in
/-- A merged file agrees with the edited file, since its stubs stand between lines of the new
file. -/
theorem agreeOnEdges_mergedLines :
    AgreeOnEdges (scan convention old).1
      (scanLines convention (mergedLines convention old new)).1 := by
  refine (agreeOnEdges_iff (scanLines_hasParts convention _) (scanLines_hasParts convention _)).2 ?_
  intro header body closer header' body' closer' hstub hstub' hname
  obtain ⟨generated, hgenerated⟩ := exists_stub_of_mem_mergedLines hold hnew hheader hagree hstub'
  exact (agreeOnEdges_iff (scanLines_hasParts convention _) (scanLines_hasParts convention _)).1
    hagree _ _ _ _ _ _ hstub hgenerated hname

end Settled

/-- Merging the same edits a third time changes nothing: by then all bodies and all imports are
there. -/
theorem mergedLines_settled {convention : Convention} {old new one two : Text}
    (hold : NoUnbalanced (scan convention old).2) (hnew : NoUnbalanced (scan convention new).2)
    (hdup : NoDuplicate (scan convention new).2)
    (hagree : AgreeOnEdges (scan convention old).1 (scan convention new).1)
    (hone : one.splitLines = mergedLines convention old new)
    (htwo : two.splitLines = mergedLines convention old one) :
    mergedLines convention old two = two.splitLines := by
  have hscan : scan convention one = scanLines convention (mergedLines convention old new) := by
    rw [scan, hone]
  have hscan' : scan convention two = scanLines convention (mergedLines convention old one) := by
    rw [scan, htwo]
  have hheader := headerOutsideIgnored_of_noDuplicate hdup
  -- the first result is as good a new file as the new one was
  have hbodies : HasBodiesOf (scan convention old).1 (scan convention one).1 := by
    rw [hscan]
    exact hasBodiesOf_mergedLines hold hnew hheader hagree
  have hbalanced : NoUnbalanced (scan convention one).2 := by
    rw [hscan]
    exact noUnbalanced_mergedLines hold hnew hheader hagree
  have hheader' : HeaderOutsideIgnored convention one := by
    apply headerOutsideIgnored_of_noDuplicate
    rw [hscan]
    exact noDuplicate_mergedLines hold hnew hheader hagree hdup
  have hagree' : AgreeOnEdges (scan convention old).1 (scan convention one).1 := by
    rw [hscan]
    exact agreeOnEdges_mergedLines hold hnew hheader hagree
  apply mergedLines_eq_self
  · rw [hscan']
    exact hasBodiesOf_mergedLines hold hbalanced hheader' hagree'
  · intro line hline
    rw [htwo]
    by_cases hthere : line ∈ one.splitLines
    · exact mem_mergedLines_of_hasBodiesOf hbodies hthere
    · exact mem_mergedLines.2 (Or.inl ⟨hline, hthere⟩)

/-! ## Main results -/

/-- A merge is stable when the same file is generated again: its result, merged into that file,
gives itself. -/
theorem mergeTexts_result_again (convention : Convention) (old new : Text)
    (hold : NoUnbalanced (scan convention old).2) (hnew : NoUnbalanced (scan convention new).2)
    (hdup : NoDuplicate (scan convention new).2)
    (hagree : AgreeOnEdges (scan convention old).1 (scan convention new).1) :
    ∃ once,
      render (scan convention new).1 (merge (scan convention old).1 (scan convention new).1).1
        convention.headerLines = .ok once ∧
      render (scan convention new).1 (merge (scan convention once).1 (scan convention new).1).1
        convention.headerLines = .ok once := by
  obtain ⟨once, honce, hlines⟩ := mergeTexts_eq convention old new
  have hheader := headerOutsideIgnored_of_noDuplicate hdup
  have hagain := mergedLines_again hold hnew hheader hagree hlines
  exact ⟨once, honce, mergeTexts_eq_ok_iff.2 (hlines.trans hagain.symm)⟩

/-- Two imports are carried, one of which stands in a body of the new file that is kept. -/
theorem mergeTexts_result_again_letters :
    let old := Text.lit "r2\nr1\nf\x7b\nkept\n\x7d\nr3"
    let new := Text.lit "top\ng=\n\x7b\nr1\n\x7d\nf\x7b\n\x7d\nr4"
    (NoUnbalanced (scan letters old).2 ∧ NoUnbalanced (scan letters new).2 ∧
      NoDuplicate (scan letters new).2 ∧
      AgreeOnEdges (scan letters old).1 (scan letters new).1) ∧
    ∃ once, mergeTexts letters old new = .ok once ∧ mergeTexts letters once new = .ok once := by
  intro old new
  have hold : NoUnbalanced (scan letters old).2 := by decide
  have hnew : NoUnbalanced (scan letters new).2 := by decide
  have hdup : NoDuplicate (scan letters new).2 := by decide
  have hagree : AgreeOnEdges (scan letters old).1 (scan letters new).1 := by decide
  exact ⟨⟨hold, hnew, hdup, hagree⟩, mergeTexts_result_again letters old new hold hnew hdup hagree⟩

/-- Merging the same edits again and again settles: the third merge changes nothing, and the second
changes nothing either if the imports of the edited file that are lines of the new one are imports
there, and so do not stand in bodies that are replaced. -/
theorem mergeTexts_same_edits_settle (convention : Convention) (old new : Text)
    (hold : NoUnbalanced (scan convention old).2) (hnew : NoUnbalanced (scan convention new).2)
    (hdup : NoDuplicate (scan convention new).2)
    (hagree : AgreeOnEdges (scan convention old).1 (scan convention new).1) :
    ∃ one two,
      render (scan convention new).1 (merge (scan convention old).1 (scan convention new).1).1
        convention.headerLines = .ok one ∧
      render (scan convention one).1 (merge (scan convention old).1 (scan convention one).1).1
        convention.headerLines = .ok two ∧
      render (scan convention two).1 (merge (scan convention old).1 (scan convention two).1).1
        convention.headerLines = .ok two ∧
      ((∀ line ∈ (scan convention old).1.imports, line ∈ new.splitLines →
        line ∈ (scan convention new).1.imports) → two = one) := by
  obtain ⟨one, hone, hlines⟩ := mergeTexts_eq convention old new
  obtain ⟨two, htwo, hlines'⟩ := mergeTexts_eq convention old one
  have hsettled := mergedLines_settled hold hnew hdup hagree hlines hlines'
  refine ⟨one, two, hone, htwo, mergeTexts_eq_ok_iff.2 hsettled.symm, ?_⟩
  intro himports
  have hheader := headerOutsideIgnored_of_noDuplicate hdup
  have hscan : scan convention one = scanLines convention (mergedLines convention old new) := by
    rw [scan, hlines]
  have hbodies : HasBodiesOf (scan convention old).1 (scan convention one).1 := by
    rw [hscan]
    exact hasBodiesOf_mergedLines hold hnew hheader hagree
  -- no import is missing after the first merge
  have hthere : ∀ line ∈ (scan convention old).1.imports, line ∈ one.splitLines := by
    intro line hline
    rw [hlines, mem_mergedLines]
    by_cases hnewLine : line ∈ new.splitLines
    · exact Or.inr (Or.inl (outsideBodies_of_mem_imports (himports line hline hnewLine)))
    · exact Or.inl ⟨hline, hnewLine⟩
  exact Text.eq_of_splitLines_eq (hlines'.trans (mergedLines_eq_self hbodies hthere))

/-- An import that stands in a replaced body is missing after the first merge and added by the
second; without it the first merge is the last one. -/
theorem mergeTexts_same_edits_settle_letters :
    let old := Text.lit "r1\nr2\nf\x7b\nkept\n\x7d"
    let hidden := Text.lit "top\nf\x7b\nr1\n\x7d\ng\x7b\n\x7d"
    let plain := Text.lit "top\nr1\nf\x7b\n\x7d\ng\x7b\n\x7d"
    (∀ new ∈ [hidden, plain], NoUnbalanced (scan letters old).2 ∧
      NoUnbalanced (scan letters new).2 ∧ NoDuplicate (scan letters new).2 ∧
      AgreeOnEdges (scan letters old).1 (scan letters new).1) ∧
    (∃ one two, mergeTexts letters old hidden = .ok one ∧ mergeTexts letters old one = .ok two ∧
      mergeTexts letters old two = .ok two) ∧
    ∃ one, mergeTexts letters old plain = .ok one ∧ mergeTexts letters old one = .ok one := by
  intro old hidden plain
  have hall : ∀ new ∈ [hidden, plain], NoUnbalanced (scan letters old).2 ∧
      NoUnbalanced (scan letters new).2 ∧ NoDuplicate (scan letters new).2 ∧
      AgreeOnEdges (scan letters old).1 (scan letters new).1 := by decide
  refine ⟨hall, ?_, ?_⟩
  · obtain ⟨hold, hnew, hdup, hagree⟩ := hall hidden (by simp)
    obtain ⟨one, two, hone, htwo, hthree, -⟩ :=
      mergeTexts_same_edits_settle letters old hidden hold hnew hdup hagree
    exact ⟨one, two, hone, htwo, hthree⟩
  · obtain ⟨hold, hnew, hdup, hagree⟩ := hall plain (by simp)
    obtain ⟨one, two, hone, htwo, -, hsame⟩ :=
      mergeTexts_same_edits_settle letters old plain hold hnew hdup hagree
    have himports : ∀ line ∈ (scan letters old).1.imports, line ∈ plain.splitLines →
        line ∈ (scan letters plain).1.imports := by decide
    obtain rfl := hsame himports
    exact ⟨two, hone, htwo⟩

end StubGraft
