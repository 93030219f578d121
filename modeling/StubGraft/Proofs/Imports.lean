import StubGraft.Proofs.Rescan

/-!
# What becomes of imports

A merge adds the imports of the edited file to the new one, unless they are there already.  Which
lines count as there is decided on all lines of the new file, bodies included, and then most of
these bodies are replaced.

* `Model.OutsideBodies` — a line that stands outside of every recorded body.
* `mem_mergedLines` — the lines of a merged file.
* `mem_imports_mergedLines` — its imports.
* `mergeTexts_keeps_imports` — which imports are kept.
-/

namespace StubGraft

/-! ## Lines outside of bodies -/

/-- A line stands somewhere outside of the recorded bodies. -/
def Model.OutsideBodies (model : Model) (line : Text) : Prop :=
  ∃ index, model.lines[index]? = some line ∧
    ∀ span ∈ model.spans, index ≤ span.first ∨ span.last ≤ index

/-- The lines of a part that are no body. -/
def Part.scaffold : Part → List Text
  | .copied line => [line]
  | .stub header _ closer => [header, closer]

/-- The lines of a part outside of its body, by their positions. -/
theorem Part.mem_scaffold_iff {part : Part} {position : Nat} {line : Text} :
    line ∈ part.scaffold ↔ ∃ index, part.lines[index]? = some line ∧
      ∀ span ∈ spansFrom position [part],
        position + index ≤ span.first ∨ span.last ≤ position + index := by
  cases part with
  | copied line' => simp [Part.scaffold, Part.lines, spansFrom, List.getElem?_singleton, eq_comm]
  | stub header body closer =>
    simp only [Part.scaffold, Part.lines, spansFrom, List.mem_cons, List.not_mem_nil, or_false,
      forall_eq, List.cons_append]
    constructor
    · rintro (rfl | rfl)
      · exact ⟨0, rfl, Or.inl (Nat.le_refl _)⟩
      · exact ⟨body.length + 1, by simp, Or.inr (Nat.le_refl _)⟩
    · rintro ⟨index, hline, hspan⟩
      have hbound := (List.getElem?_eq_some_iff.1 hline).1
      simp only [List.length_cons, List.length_append, List.length_nil] at hbound
      rcases Nat.eq_zero_or_pos index with rfl | hpos
      · exact Or.inl (Option.some.inj hline).symm
      · obtain rfl : index = body.length + 1 := by omega
        exact Or.inr (by simpa [eq_comm] using hline)

theorem exists_outside_iff {parts : List Part} {position : Nat} {line : Text} :
    (∃ index, (partLines parts)[index]? = some line ∧
      ∀ span ∈ spansFrom position parts,
        position + index ≤ span.first ∨ span.last ≤ position + index) ↔
      ∃ part ∈ parts, line ∈ part.scaffold := by
  induction parts generalizing position with
  | nil => simp
  | cons part parts ih =>
    have hspans : spansFrom position (part :: parts) =
        spansFrom position [part] ++ spansFrom (position + part.lines.length) parts := by
      have := spansFrom_append position [part] parts
      simpa using this
    rw [List.exists_mem_cons_iff, ← @ih (position + part.lines.length),
      @Part.mem_scaffold_iff part position, hspans, partLines_cons]
    simp only [List.mem_append]
    constructor
    · rintro ⟨index, hline, hspan⟩
      by_cases hin : index < part.lines.length
      · rw [List.getElem?_append_left hin] at hline
        exact Or.inl ⟨index, hline, fun span hm => hspan span (Or.inl hm)⟩
      · rw [List.getElem?_append_right (by omega)] at hline
        refine Or.inr ⟨_, hline, fun span hm => ?_⟩
        have := hspan span (Or.inr hm)
        omega
    · rintro (⟨index, hline, hspan⟩ | ⟨index, hline, hspan⟩)
      · have hin := (List.getElem?_eq_some_iff.1 hline).1
        refine ⟨index, by rw [List.getElem?_append_left hin, hline], ?_⟩
        rintro span (hm | hm)
        · exact hspan span hm
        · have := (spansFrom_bounds hm).1
          omega
      · refine ⟨part.lines.length + index, ?_, ?_⟩
        · rw [List.getElem?_append_right (by omega), Nat.add_sub_cancel_left, hline]
        · rintro span (hm | hm)
          · have := (spansFrom_bounds hm).2.2
            simp only [partLines_cons, partLines_nil, List.append_nil] at this
            omega
          · have := hspan span hm
            omega

theorem Model.HasParts.outsideBodies_iff {model : Model} {parts : List Part} {line : Text}
    (h : model.HasParts parts) :
    model.OutsideBodies line ↔ ∃ part ∈ parts, line ∈ part.scaffold := by
  rw [← @exists_outside_iff parts 0, Model.OutsideBodies, h.lines, h.spans]
  simp only [Nat.zero_add]

/-- A line outside of blocks is copied. -/
theorem copied_mem_layout {segs : List Segment} {line : Text} (h : line ∈ singles segs)
    (seen : List Text) : .copied line ∈ layout seen segs := by
  obtain ⟨seg, hseg, hsingle⟩ := List.mem_filterMap.1 h
  obtain ⟨before, after, rfl⟩ := List.append_of_mem hseg
  rw [layout_append]
  refine List.mem_append_right _ ?_
  cases seg with
  | plain line' => cases hsingle; exact List.mem_cons_self
  | unbalanced line' => cases hsingle; exact List.mem_cons_self
  | oneLine line' => cases hsingle; exact List.mem_cons_self
  | block header body closer => simp [Segment.single?] at hsingle

/-- The imports of a file stand outside of its bodies. -/
theorem outsideBodies_of_mem_imports {convention : Convention} {text line : Text}
    (h : line ∈ (scan convention text).1.imports) :
    (scan convention text).1.OutsideBodies line := by
  refine (scanLines_hasParts convention text.splitLines).outsideBodies_iff.2 ⟨.copied line, ?_, ?_⟩
  · exact copied_mem_layout (mem_scanLines_imports.1 h).1 []
  · exact List.mem_singleton_self line

/-! ## The lines and the imports of a merged file -/

section Merged

variable {convention : Convention} {old new : Text}

/-- A merged file has the lines of the new file outside of its bodies, the merged bodies, and the
imports of the edited file that are not among the lines of the new file. -/
theorem mem_mergedLines {line : Text} :
    line ∈ mergedLines convention old new ↔
      (line ∈ (scan convention old).1.imports ∧ line ∉ new.splitLines) ∨
      (scan convention new).1.OutsideBodies line ∨
      ∃ name body,
        (mergeStubs (scan convention old).1 (scan convention new).1).body? name = some body ∧
          line ∈ body := by
  have hparts := scanLines_hasParts convention new.splitLines
  rw [mergedLines, mem_renderedLines, mem_pendingImports]
  refine or_congr Iff.rfl ?_
  rw [show (scan convention new).1.OutsideBodies line ↔ _ from hparts.outsideBodies_iff]
  constructor
  · rintro ⟨part, hpart, hline⟩
    cases part with
    | copied line' => exact Or.inl ⟨_, hpart, hline⟩
    | stub header body closer =>
      have hbody := body?_mergeStubs (scan convention old).1 (scan convention new).1
        (stubName header)
      rw [show (scan convention new).1.stubs.body? _ = _ from hparts.body? hpart] at hbody
      rw [withBodies_mergeStubs _ hpart] at hline
      simp only [Part.lines, List.cons_append, List.mem_cons, List.mem_append,
        List.not_mem_nil, or_false] at hline
      rcases hline with rfl | hline | rfl
      · exact Or.inl ⟨_, hpart, by simp [Part.scaffold]⟩
      · exact Or.inr ⟨stubName header, _, hbody, hline⟩
      · exact Or.inl ⟨_, hpart, by simp [Part.scaffold]⟩
  · rintro (⟨part, hpart, hline⟩ | ⟨name, body, hbody, hline⟩)
    · refine ⟨part, hpart, ?_⟩
      cases part with
      | copied line' => exact hline
      | stub header body closer =>
        simp only [Part.scaffold, List.mem_cons, List.not_mem_nil, or_false] at hline
        rcases hline with rfl | rfl <;> simp [Part.withBodies, Part.lines]
    · have hname := hbody
      rw [body?_mergeStubs, Option.map_eq_some_iff] at hname
      obtain ⟨generated, hgenerated, -⟩ := hname
      obtain ⟨header, closer, hstub, rfl⟩ := exists_stub_of_body? hgenerated
      refine ⟨_, hstub, ?_⟩
      simp [Part.withBodies, Part.lines, hbody, hline]

/-- A merged file has the imports of the new file and those of the edited file that are not among
the lines of the new file. -/
theorem mem_imports_mergedLines (hold : NoUnbalanced (scan convention old).2)
    (hnew : NoUnbalanced (scan convention new).2)
    (hheader : HeaderOutsideIgnored convention new)
    (hagree : AgreeOnEdges (scan convention old).1 (scan convention new).1) {line : Text} :
    line ∈ (scanLines convention (mergedLines convention old new)).1.imports ↔
      line ∈ (scan convention new).1.imports ∨
        line ∈ (scan convention old).1.imports ∧ line ∉ new.splitLines := by
  have hgenerated : line ∈ (scan convention new).1.imports ↔ _ := mem_scanLines_imports
  rw [mem_scanLines_imports, segments_mergedLines hold hnew hheader hagree,
    mem_singles_mergedSegments, mem_pendingImports, hgenerated]
  constructor
  · rintro ⟨hline | hline, himport⟩
    · exact Or.inl ⟨hline, himport⟩
    · exact Or.inr hline
  · rintro (⟨hline, himport⟩ | ⟨hline, habsent⟩)
    · exact ⟨Or.inl hline, himport⟩
    · exact ⟨Or.inr ⟨hline, habsent⟩, (mem_scanLines_imports.1 hline).2⟩

end Merged

/-! ## Main result -/

/-- What a merge keeps of the imports.  No import of the new file is lost as a line, and none of the
edited file unless the new file has that line in replaced bodies only.  As long as the braces allow
the merged file to be scanned as it was merged, the imports of the new file are imports again, and
so are those of the edited file that are imports of the new file or nowhere in it; and there are no
others. -/
theorem mergeTexts_keeps_imports (convention : Convention) (old new : Text) :
    ∃ out,
      render (scan convention new).1 (merge (scan convention old).1 (scan convention new).1).1
        convention.headerLines = .ok out ∧
      (∀ line ∈ (scan convention new).1.imports, line ∈ out.splitLines) ∧
      (∀ line ∈ (scan convention old).1.imports,
        line ∉ new.splitLines ∨ (scan convention new).1.OutsideBodies line ∨
          (∃ name body, (merge (scan convention old).1 (scan convention new).1).1.stubs.body? name =
            some body ∧ line ∈ body) →
        line ∈ out.splitLines) ∧
      (NoUnbalanced (scan convention old).2 → NoUnbalanced (scan convention new).2 →
        HeaderOutsideIgnored convention new →
        AgreeOnEdges (scan convention old).1 (scan convention new).1 →
        (∀ line ∈ (scan convention new).1.imports, line ∈ (scan convention out).1.imports) ∧
        (∀ line ∈ (scan convention old).1.imports,
          line ∉ new.splitLines ∨ line ∈ (scan convention new).1.imports →
          line ∈ (scan convention out).1.imports) ∧
        ∀ line ∈ (scan convention out).1.imports,
          line ∈ (scan convention old).1.imports ∨ line ∈ (scan convention new).1.imports) := by
  obtain ⟨out, hout, hlines⟩ := mergeTexts_eq convention old new
  refine ⟨out, hout, ?_, ?_, ?_⟩
  · intro line hline
    rw [hlines, mem_mergedLines]
    exact Or.inr (Or.inl (outsideBodies_of_mem_imports hline))
  · intro line hline h
    rw [hlines, mem_mergedLines]
    exact h.imp_left fun habsent => ⟨hline, habsent⟩
  · intro hold hnew hheader hagree
    have himports : ∀ line, line ∈ (scan convention out).1.imports ↔
        line ∈ (scan convention new).1.imports ∨
          line ∈ (scan convention old).1.imports ∧ line ∉ new.splitLines := by
      intro line
      rw [scan, hlines]
      exact mem_imports_mergedLines hold hnew hheader hagree
    refine ⟨fun line hline => (himports line).2 (Or.inl hline), ?_, ?_⟩
    · rintro line hline (habsent | himport)
      · exact (himports line).2 (Or.inr ⟨hline, habsent⟩)
      · exact (himports line).2 (Or.inl himport)
    · intro line hline
      exact ((himports line).1 hline).symm.imp_left And.left

/-- An import that is in a new body as well is kept as a line, one that stands nowhere in the new
file is an import again, and neither minds the ignored declaration. -/
theorem mergeTexts_keeps_imports_letters :
    let old := Text.lit "r1\nr2\nf\x7b\nkept\n\x7d"
    let new := Text.lit "top\nf\x7b\n\x7d\ng\x7b\nr1\n\x7d\nf\x7b\n\x7d\nr3"
    (NoUnbalanced (scan letters old).2 ∧ NoUnbalanced (scan letters new).2 ∧
      HeaderOutsideIgnored letters new ∧
      AgreeOnEdges (scan letters old).1 (scan letters new).1) ∧
    ∃ out, mergeTexts letters old new = .ok out ∧
      (∀ line ∈ [Text.lit "r1", Text.lit "r2", Text.lit "r3"], line ∈ out.splitLines) ∧
      (∀ line ∈ [Text.lit "r2", Text.lit "r3"], line ∈ (scan letters out).1.imports) := by
  intro old new
  have hold : NoUnbalanced (scan letters old).2 := by decide
  have hnew : NoUnbalanced (scan letters new).2 := by decide
  have hheader : HeaderOutsideIgnored letters new := by decide
  have hagree : AgreeOnEdges (scan letters old).1 (scan letters new).1 := by decide
  obtain ⟨out, hout, hnewLines, holdLines, himports⟩ := mergeTexts_keeps_imports letters old new
  obtain ⟨hnewImports, holdImports, -⟩ := himports hold hnew hheader hagree
  refine ⟨⟨hold, hnew, hheader, hagree⟩, out, hout, ?_, ?_⟩
  · simp only [List.forall_mem_cons, List.not_mem_nil, false_implies, implies_true, and_true]
    refine ⟨?_, ?_, ?_⟩
    · refine holdLines _ (by decide) (Or.inr (Or.inr ?_))
      exact ⟨Text.lit "g\x7b", [Text.lit "r1"], by decide, by decide⟩
    · exact holdLines _ (by decide) (Or.inl (by decide))
    · exact hnewLines _ (by decide)
  · simp only [List.forall_mem_cons, List.not_mem_nil, false_implies, implies_true, and_true]
    exact ⟨holdImports _ (by decide) (Or.inl (by decide)), hnewImports _ (by decide)⟩

/-- All imports of the edited and of the new file are lines and imports of a third. -/
def KeepsImports (convention : Convention) (old new out : Text) : Prop :=
  ∀ line ∈ (scan convention old).1.imports ++ (scan convention new).1.imports,
    line ∈ out.splitLines ∧ line ∈ (scan convention out).1.imports

instance (convention : Convention) (old new out : Text) :
    Decidable (KeepsImports convention old new out) := by
  unfold KeepsImports
  infer_instance

/-- Two files have the given merge, and it does not keep all of their imports. -/
def LosesImports (convention : Convention) (old new out : Text) : Prop :=
  mergeTexts convention old new = .ok out ∧ ¬ KeepsImports convention old new out

instance (convention : Convention) (old new out : Text) :
    Decidable (LosesImports convention old new out) := by
  unfold LosesImports
  infer_instance

/-- Imports are lost where they stand in a body that is replaced, where the braces of the edited or
of the new file are unbalanced, where the lines around a body differ in their braces, and where the
header ends inside of an ignored declaration. -/
theorem losesImports_letters :
    LosesImports letters (Text.lit "r\nf\x7b\nkept\n\x7d") (Text.lit "f\x7b\nr\n\x7d")
      (Text.lit "f\x7b\nkept\n\x7d") ∧
    LosesImports letters (Text.lit "fr\x7b") (Text.lit "top\n\x7d")
      (Text.lit "top\nfr\x7b\n\x7d") ∧
    LosesImports letters (Text.lit "r\x7d") (Text.lit "f\x7b") (Text.lit "f\x7b\nr\x7d") ∧
    LosesImports letters (Text.lit "f\x7b\n\x7b\n\x7d\x7d") (Text.lit "f\x7b\n\x7d\nr\n\x7d")
      (Text.lit "f\x7b\n\x7b\n\x7d\nr\n\x7d") ∧
    LosesImports ⟨letters.declares, letters.marker, 3⟩ (Text.lit "r")
      (Text.lit "f\x7b\n\x7d\nf\x7b\n\x7d") (Text.lit "f\x7b\n\x7d\nf\x7b\nr\n\x7d") := by
  decide

end StubGraft
