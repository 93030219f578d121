import StubGraft.Proofs.Grafting
import StubGraft.Proofs.Merging
import Mathlib.Data.List.Basic

/-!
# Scanning a merged file

A merged file is scanned again when the visitor is regenerated the next time.  Its bodies come
from one file, their declaring and closing lines from another, and imports stand between them;
still the scanner finds every boundary again, as long as no braces were unbalanced and the lines
around a body have the net braces that they had in its own file.

* `mergedSegments`, `segments_mergedLines` — the cut of a merged file.
* `scan_mergeTexts` — its stubs are exactly the merged ones, and nothing is unbalanced or
  declared twice.
-/

namespace StubGraft

section Merged

variable {convention : Convention} {old new : Text}

/-! ## The cut of a merged file -/

/-- The segment of an import line outside of blocks. -/
def importSegment (convention : Convention) (line : Text) : Segment :=
  if convention.declares line then .oneLine line else .plain line

theorem layout_importSegment (convention : Convention) (seen lines : List Text)
    (segs : List Segment) :
    layout seen (lines.map (importSegment convention) ++ segs) =
      lines.map .copied ++ layout seen segs := by
  induction lines with
  | nil => rfl
  | cons line lines ih =>
    rw [List.map_cons, List.cons_append, importSegment]
    split <;> rw [layout, ih] <;> rfl

theorem blockNames_importSegment (convention : Convention) (lines : List Text) :
    blockNames (lines.map (importSegment convention)) = [] := by
  rw [blockNames, List.filterMap_map, List.filterMap_eq_nil_iff]
  intro line _
  rw [Function.comp_apply, importSegment]
  split <;> rfl

theorem singles_importSegment (convention : Convention) (lines : List Text) :
    singles (lines.map (importSegment convention)) = lines := by
  rw [singles, List.filterMap_map]
  have : Segment.single? ∘ importSegment convention = some := by
    funext line
    rw [Function.comp_apply, importSegment]
    split <;> rfl
  rw [this, List.filterMap_some]

/-- The segments of the new file with the pending imports behind those of the header. -/
def withPending (convention : Convention) (old new : Text) : List Segment :=
  let segs := segments convention new.splitLines
  let count := headerSegments convention.headerLines 0 segs
  segs.take count ++
    ((pendingImports (scan convention new).1
      (merge (scan convention old).1 (scan convention new).1).1).map (importSegment convention) ++
    segs.drop count)

/-- The segments of the merge of an edited and a new file. -/
def mergedSegments (convention : Convention) (old new : Text) : List Segment :=
  graft (mergeStubs (scan convention old).1 (scan convention new).1) []
    (withPending convention old new)

/-- The blocks of a merged file have the names of those of the new file. -/
theorem blockNames_mergedSegments :
    blockNames (mergedSegments convention old new) =
      blockNames (segments convention new.splitLines) := by
  rw [mergedSegments, blockNames_graft, withPending, blockNames_append, blockNames_append,
    blockNames_importSegment, List.nil_append, ← blockNames_append, List.take_append_drop]

/-- The lines outside of the blocks of a merged file are those of the new file and the pending
imports. -/
theorem mem_singles_mergedSegments {line : Text} :
    line ∈ singles (mergedSegments convention old new) ↔
      line ∈ singles (segments convention new.splitLines) ∨
        line ∈ pendingImports (scan convention new).1
          (merge (scan convention old).1 (scan convention new).1).1 := by
  have hsingles := congrArg singles (List.take_append_drop
    (headerSegments convention.headerLines 0 (segments convention new.splitLines))
    (segments convention new.splitLines))
  rw [← hsingles, mergedSegments, singles_graft, withPending]
  simp only [singles_append, singles_importSegment, List.mem_append]
  exact or_left_comm.trans or_comm

/-- The parts of the new file with the pending imports. -/
theorem layout_withPending :
    layout [] (withPending convention old new) =
      let segs := segments convention new.splitLines
      let count := headerSegments convention.headerLines 0 segs
      layout [] (segs.take count) ++
        ((pendingImports (scan convention new).1
          (merge (scan convention old).1 (scan convention new).1).1).map .copied ++
        layout (seenAfter [] (segs.take count)) (segs.drop count)) := by
  rw [withPending, layout_append, layout_importSegment]

/-- The pending imports are no stubs. -/
theorem stub_mem_layout_withPending {header closer : Text} {body : List Text} :
    .stub header body closer ∈ layout [] (withPending convention old new) ↔
      .stub header body closer ∈ layoutOf convention new.splitLines := by
  rw [layout_withPending, layoutOf, layout_take_append_drop [] (headerSegments
    convention.headerLines 0 (segments convention new.splitLines)) (segments _ _)]
  simp

/-- A scan reports no declaration with unbalanced braces. -/
def NoUnbalanced (events : List Event) : Prop := ∀ line, .unbalancedStub line ∉ events

/-- A scan reports no second declaration of a name. -/
def NoDuplicate (events : List Event) : Prop := ∀ name line, .duplicateStub name line ∉ events

instance (events : List Event) : Decidable (NoUnbalanced events) :=
  decidable_of_iff (∀ event ∈ events, !event matches .unbalancedStub _) <| by
    constructor
    · intro h line hmem
      exact absurd (h _ hmem) (by simp)
    · intro h event hmem
      cases event <;> simp_all [NoUnbalanced]

instance (events : List Event) : Decidable (NoDuplicate events) :=
  decidable_of_iff (∀ event ∈ events, !event matches .duplicateStub _ _) <| by
    constructor
    · intro h name line hmem
      exact absurd (h _ hmem) (by simp)
    · intro h event hmem
      cases event <;> simp_all [NoDuplicate]

/-- Without unbalanced declarations all segments are sound. -/
theorem sound_of_noUnbalanced {seg : Segment} (h : NoUnbalanced (scan convention old).2)
    (hseg : seg ∈ segments convention old.splitLines) : seg.Sound convention := by
  refine (cut_segments convention old.splitLines).1.sound hseg fun line he => ?_
  exact no_unbalanced_iff.1 h line (he ▸ hseg)

/-- An import line outside of blocks is a sound segment in any other file too. -/
theorem sound_importSegment {line : Text} (h : NoUnbalanced (scan convention old).2)
    (hline : line ∈ (scan convention old).1.imports) :
    (importSegment convention line).Sound convention := by
  obtain ⟨seg, hseg, hsingle⟩ := List.mem_filterMap.1 (mem_scanLines_imports.1 hline).1
  have hsound := sound_of_noUnbalanced h hseg
  cases seg with
  | plain line' =>
    cases hsingle
    rw [importSegment, if_neg (by simpa [Segment.Sound] using hsound)]
    exact hsound
  | unbalanced line' => exact hsound.elim
  | oneLine line' =>
    cases hsingle
    rw [importSegment, if_pos hsound.1]
    exact hsound
  | block header body closer => simp [Segment.single?] at hsingle

/-- The body that a stub of the old file has stands between sound lines there. -/
theorem exists_stub_of_body? {name : Text} {body : List Text}
    (h : (scan convention old).1.stubs.body? name = some body) :
    ∃ header closer, .stub header body closer ∈ layoutOf convention old.splitLines ∧
      stubName header = name := by
  rwa [StubTable.body?_eq_some_iff, scan, scanLines_entries, mem_entriesOf] at h

/-- The header of a file does not end inside of a block that is ignored because its name is taken:
where imports are placed, there is no block. -/
def HeaderOutsideIgnored (convention : Convention) (text : Text) : Prop :=
  ∀ span ∈ ignoredFrom [] 0 (segments convention text.splitLines),
    convention.headerLines ≤ span.first ∨ span.last < convention.headerLines

instance (convention : Convention) (text : Text) :
    Decidable (HeaderOutsideIgnored convention text) := by
  unfold HeaderOutsideIgnored
  infer_instance

theorem headerOutsideIgnored_of_noDuplicate (h : NoDuplicate (scan convention new).2) :
    HeaderOutsideIgnored convention new := by
  have hnil : ignoredFrom [] 0 (segments convention new.splitLines) = [] := by
    refine ignoredFrom_eq_nil fun name line hm => h name line ?_
    rw [scan, scanLines_events]
    exact List.mem_append_left _ hm
  intro span hspan
  rw [hnil] at hspan
  exact absurd hspan List.not_mem_nil

variable (hold : NoUnbalanced (scan convention old).2) (hnew : NoUnbalanced (scan convention new).2)
  (hheader : HeaderOutsideIgnored convention new)
  (hagree : AgreeOnEdges (scan convention old).1 (scan convention new).1)

include hheader in
theorem linesOf_mergedSegments :
    linesOf (mergedSegments convention old new) = mergedLines convention old new := by
  have hparts := headerParts_layout hheader
  have hlayout := layout_take_append_drop [] (headerSegments convention.headerLines 0
    (segments convention new.splitLines)) (segments convention new.splitLines)
  rw [mergedSegments, linesOf_graft, layout_withPending, mergedLines, renderedLines, layoutOf,
    hparts, hlayout, List.take_left, List.drop_left]
  simp only [List.map_append, partLines_append, List.append_assoc, List.map_map]
  congr 2
  exact partLines_copied _

include hold hnew hagree in
/-- Every segment of a merged file is sound. -/
theorem sound_mergedSegments {seg : Segment} (hseg : seg ∈ mergedSegments convention old new) :
    seg.Sound convention := by
  rcases mem_graft hseg with hseg | ⟨header, body, closer, hstub, rfl⟩
  · simp only [withPending, List.mem_append, List.mem_map] at hseg
    rcases hseg with hmem | ⟨line, hline, rfl⟩ | hmem
    · exact sound_of_noUnbalanced hnew (List.mem_of_mem_take hmem)
    · exact sound_importSegment hold (mem_pendingImports.1 hline).1
    · exact sound_of_noUnbalanced hnew (List.mem_of_mem_drop hmem)
  · rw [stub_mem_layout_withPending] at hstub
    have hsound := sound_of_noUnbalanced hnew (block_mem_of_stub_mem hstub)
    have hpart := withBodies_mergeStubs (scan convention old).1 hstub
    rw [Part.withBodies, Part.stub.injEq] at hpart
    rw [hpart.2.1]
    cases hbody : (scan convention old).1.stubs.body? (stubName header) with
    | none => exact hsound
    | some kept =>
      obtain ⟨header', closer', hstub', hname⟩ := exists_stub_of_body? hbody
      obtain ⟨-, hdelim⟩ := sound_of_noUnbalanced hold (block_mem_of_stub_mem hstub')
      obtain ⟨hnet, hnet'⟩ := (agreeOnEdges_iff (scanLines_hasParts convention _)
        (scanLines_hasParts convention _)).1 hagree _ _ _ _ _ _ hstub' hstub hname
      exact ⟨hsound.1, hdelim.splice hsound.2 hnet hnet'⟩

include hold hnew hheader hagree in
/-- The scanner cuts a merged file into its segments. -/
theorem segments_mergedLines :
    segments convention (mergedLines convention old new) = mergedSegments convention old new := by
  rw [← linesOf_mergedSegments hheader]
  exact segments_linesOf_of_sound fun seg hseg => sound_mergedSegments hold hnew hagree hseg

/-! ## What is found in a merged file -/

/-- The new stubs with their merged bodies are the merged stubs. -/
theorem entriesOf_withBodies :
    entriesOf ((layoutOf convention new.splitLines).map
        (Part.withBodies (mergeStubs (scan convention old).1 (scan convention new).1))) =
      (mergeStubs (scan convention old).1 (scan convention new).1).entries := by
  have hentries : (mergeStubs (scan convention old).1 (scan convention new).1).entries =
      (entriesOf (layoutOf convention new.splitLines)).map fun entry =>
        (entry.1, ((scan convention old).1.stubs.body? entry.1).getD entry.2) := by
    rw [← scanLines_entries]
    rfl
  rw [hentries, entriesOf, entriesOf, List.filterMap_map, List.map_filterMap]
  refine List.filterMap_congr fun part hpart => ?_
  cases part with
  | copied line => rfl
  | stub header body closer =>
    rw [Function.comp_apply, withBodies_mergeStubs _ hpart]
    rfl

include hold hnew hheader hagree in
/-- The parts of a merged file are those of the new file and the pending imports, with the merged
bodies. -/
theorem layoutOf_mergedLines :
    layoutOf convention (mergedLines convention old new) =
      (layout [] (withPending convention old new)).map
        (Part.withBodies (mergeStubs (scan convention old).1 (scan convention new).1)) := by
  rw [layoutOf, segments_mergedLines hold hnew hheader hagree, mergedSegments, layout_graft]

include hold hnew hheader hagree in
/-- The stubs of a merged file are the merged ones. -/
theorem stubs_mergedLines :
    (scanLines convention (mergedLines convention old new)).1.stubs =
      mergeStubs (scan convention old).1 (scan convention new).1 := by
  refine StubTable.ext_entries ?_
  have hlayout := layout_take_append_drop [] (headerSegments convention.headerLines 0
    (segments convention new.splitLines)) (segments convention new.splitLines)
  rw [scanLines_entries, layoutOf_mergedLines hold hnew hheader hagree, ← entriesOf_withBodies,
    layoutOf, hlayout, layout_withPending]
  have himports : ∀ lines : List Text,
      entriesOf ((lines.map .copied).map
        (Part.withBodies (mergeStubs (scan convention old).1 (scan convention new).1))) = [] := by
    intro lines
    rw [List.map_map]
    exact entriesOf_copied lines
  simp only [List.map_append, entriesOf_append, himports, List.nil_append]

include hold hnew hheader hagree in
/-- No declaration of a merged file is unbalanced. -/
theorem noUnbalanced_mergedLines :
    NoUnbalanced (scanLines convention (mergedLines convention old new)).2 := by
  refine no_unbalanced_iff.2 fun line hmem => ?_
  rw [segments_mergedLines hold hnew hheader hagree] at hmem
  exact sound_mergedSegments hold hnew hagree hmem

include hold hnew hheader hagree in
/-- If no name is declared twice in the new file, then none is in a merged file. -/
theorem noDuplicate_mergedLines (hdup : NoDuplicate (scan convention new).2) :
    NoDuplicate (scanLines convention (mergedLines convention old new)).2 := by
  refine no_duplicate_iff.2 ?_
  rw [segments_mergedLines hold hnew hheader hagree, blockNames_mergedSegments]
  exact no_duplicate_iff.1 hdup

include hold hnew hheader hagree in
/-- The stubs of a merged file stand between the lines that they have in the new file. -/
theorem exists_stub_of_mem_mergedLines {header closer : Text} {body : List Text}
    (h : .stub header body closer ∈ layoutOf convention (mergedLines convention old new)) :
    ∃ body', .stub header body' closer ∈ layoutOf convention new.splitLines := by
  rw [layoutOf_mergedLines hold hnew hheader hagree, List.mem_map] at h
  obtain ⟨part, hpart, he⟩ := h
  cases part with
  | copied line => simp [Part.withBodies] at he
  | stub header' body' closer' =>
    rw [Part.withBodies, Part.stub.injEq] at he
    obtain ⟨rfl, -, rfl⟩ := he
    exact ⟨body', stub_mem_layout_withPending.1 hpart⟩

end Merged

/-! ## Main result -/

/-- A merged file is scanned as it was merged: its stubs are the merged ones in the order of the new
file, each with its old body or, lacking one, its new body, and no braces are unbalanced and no
name is declared twice. -/
theorem scan_mergeTexts (convention : Convention) (old new : Text)
    (hold : NoUnbalanced (scan convention old).2) (hnew : NoUnbalanced (scan convention new).2)
    (hdup : NoDuplicate (scan convention new).2)
    (hagree : AgreeOnEdges (scan convention old).1 (scan convention new).1) :
    ∃ out,
      render (scan convention new).1 (merge (scan convention old).1 (scan convention new).1).1
        convention.headerLines = .ok out ∧
      (scan convention out).1.stubs =
        (merge (scan convention old).1 (scan convention new).1).1.stubs ∧
      (scan convention out).1.stubs.names = (scan convention new).1.stubs.names ∧
      (∀ name body, (scan convention new).1.stubs.body? name = some body →
        (scan convention out).1.stubs.body? name =
          some (((scan convention old).1.stubs.body? name).getD body)) ∧
      NoUnbalanced (scan convention out).2 ∧ NoDuplicate (scan convention out).2 := by
  obtain ⟨out, hout, hlines⟩ := mergeTexts_eq convention old new
  have hscan : scan convention out = scanLines convention (mergedLines convention old new) := by
    rw [scan, hlines]
  have hheader := headerOutsideIgnored_of_noDuplicate hdup
  have hstubs := stubs_mergedLines hold hnew hheader hagree
  refine ⟨out, hout, by rw [hscan]; exact hstubs, ?_, ?_, ?_, ?_⟩
  · rw [hscan, hstubs, mergeStubs, StubTable.names_mapBodies]
  · intro name body hbody
    rw [hscan, hstubs, body?_mergeStubs, hbody]
    rfl
  · rw [hscan]
    exact noUnbalanced_mergedLines hold hnew hheader hagree
  · rw [hscan]
    exact noDuplicate_mergedLines hold hnew hheader hagree hdup

/-- Declarations start with `f` or `g`, imports contain an `r`, and the header has one line. -/
def letters : Convention :=
  ⟨fun line => line.head? = some 'f' || line.head? = some 'g', ['r'], 1⟩

/-- The brace may be opened below the declaring line, and the depth may start below zero. -/
theorem scan_mergeTexts_letters :
    let old := Text.lit "f=\n\x7b\nkept\n\x7d\ng=\x7d\nmine\n\x7b\nr1"
    let new := Text.lit "top\nf=\n\x7b\n\x7d;\ng=\x7d\x7d\x7b\n\x7b"
    (NoUnbalanced (scan letters old).2 ∧ NoUnbalanced (scan letters new).2 ∧
      NoDuplicate (scan letters new).2 ∧
      AgreeOnEdges (scan letters old).1 (scan letters new).1) ∧
    ∃ out, mergeTexts letters old new = .ok out ∧
      (scan letters out).1.stubs.entries =
        [(Text.lit "f", [Text.lit "\x7b", Text.lit "kept"]), (Text.lit "g", [Text.lit "mine"])] ∧
      NoUnbalanced (scan letters out).2 ∧ NoDuplicate (scan letters out).2 := by
  intro old new
  have hold : NoUnbalanced (scan letters old).2 := by decide
  have hnew : NoUnbalanced (scan letters new).2 := by decide
  have hdup : NoDuplicate (scan letters new).2 := by decide
  have hagree : AgreeOnEdges (scan letters old).1 (scan letters new).1 := by decide
  obtain ⟨out, hout, hstubs, -, -, hbalanced, hdistinct⟩ :=
    scan_mergeTexts letters old new hold hnew hdup hagree
  refine ⟨⟨hold, hnew, hdup, hagree⟩, out, hout, ?_, hbalanced, hdistinct⟩
  rw [hstubs]
  decide

end StubGraft
