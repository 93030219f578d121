import StubGraft.Proofs.Rendering

/-!
# The text of a merge

This file puts scanning, merging and rendering together.  Any two texts can be merged, and the
lines of the result are those of the new file with the merged bodies and the pending imports
(`mergeTexts_eq`).  What stands around a body is compared by net braces (`AgreeOnEdges`).
-/

namespace StubGraft

/-! ## The lines around a body -/

/-- The net braces of the declaring and of the closing line of a span. -/
def Model.edgeNets (model : Model) (span : Span) : Int × Int :=
  (Braces.net (model.lines.getD span.first []), Braces.net (model.lines.getD span.last []))

/-- A stub that both models record has the same net braces on its declaring line in both, and on its
closing line too. -/
def AgreeOnEdges (a b : Model) : Prop :=
  ∀ s ∈ a.spans, ∀ t ∈ b.spans, s.name = t.name → a.edgeNets s = b.edgeNets t

instance (a b : Model) : Decidable (AgreeOnEdges a b) := by
  unfold AgreeOnEdges
  infer_instance

section Edges

variable {model : Model} {parts : List Part}

theorem Model.HasParts.edgeNets {before after : List Part} {header closer : Text}
    {body : List Text} (h : model.HasParts (before ++ .stub header body closer :: after)) :
    model.edgeNets ⟨stubName header, (partLines before).length,
        (partLines before).length + body.length + 1⟩ =
      (Braces.net header, Braces.net closer) := by
  have hfirst : model.lines[(partLines before).length]? = some header := by
    rw [h.lines, partLines_append, List.getElem?_append_right (Nat.le_refl _)]
    simp [Part.lines]
  have hlast : model.lines[(partLines before).length + body.length + 1]? = some closer := by
    rw [h.lines, partLines_append, List.getElem?_append_right (by omega)]
    simp [Part.lines, Nat.add_assoc]
  simp [Model.edgeNets, List.getD_eq_getElem?_getD, hfirst, hlast]

theorem Model.HasParts.exists_span {header closer : Text} {body : List Text}
    (h : model.HasParts parts) (hstub : .stub header body closer ∈ parts) :
    ∃ span ∈ model.spans, span.name = stubName header ∧
      model.edgeNets span = (Braces.net header, Braces.net closer) := by
  obtain ⟨before, after, rfl⟩ := List.append_of_mem hstub
  refine ⟨_, ?_, rfl, h.edgeNets⟩
  rw [h.spans, spansFrom_append, Nat.zero_add, spansFrom]
  simp

theorem exists_stub_of_mem_spansFrom {position : Nat} {span : Span}
    (h : span ∈ spansFrom position parts) :
    ∃ before header body closer after, parts = before ++ .stub header body closer :: after ∧
      span = ⟨stubName header, position + (partLines before).length,
        position + (partLines before).length + body.length + 1⟩ := by
  induction parts generalizing position with
  | nil => simp [spansFrom] at h
  | cons part parts ih =>
    -- a span of a later part has the part in front of it
    have later : ∀ position', span ∈ spansFrom position' parts →
        position' = position + part.lines.length →
        ∃ before header body closer after,
          part :: parts = before ++ .stub header body closer :: after ∧
          span = ⟨stubName header, position + (partLines before).length,
            position + (partLines before).length + body.length + 1⟩ := by
      rintro position' hmem rfl
      obtain ⟨before, header, body, closer, after, rfl, rfl⟩ := ih hmem
      refine ⟨part :: before, header, body, closer, after, rfl, ?_⟩
      simp only [partLines_cons, List.length_append, Nat.add_assoc]
    cases part with
    | copied line => exact later _ h (by simp [Part.lines])
    | stub header body closer =>
      rcases List.mem_cons.1 h with rfl | hmem
      · exact ⟨[], header, body, closer, parts, rfl, by simp⟩
      · exact later _ hmem (by simp [Part.lines]; omega)

theorem Model.HasParts.exists_stub {span : Span} (h : model.HasParts parts)
    (hspan : span ∈ model.spans) :
    ∃ header body closer, .stub header body closer ∈ parts ∧ span.name = stubName header ∧
      model.edgeNets span = (Braces.net header, Braces.net closer) := by
  rw [h.spans] at hspan
  obtain ⟨before, header, body, closer, after, rfl, rfl⟩ := exists_stub_of_mem_spansFrom hspan
  refine ⟨header, body, closer, by simp, rfl, ?_⟩
  rw [Nat.zero_add]
  exact h.edgeNets

/-- Models agree if their stubs do. -/
theorem agreeOnEdges_iff {a b : Model} {p q : List Part} (ha : a.HasParts p) (hb : b.HasParts q) :
    AgreeOnEdges a b ↔ ∀ header body closer header' body' closer',
      .stub header body closer ∈ p → .stub header' body' closer' ∈ q →
        stubName header = stubName header' →
          Braces.net header = Braces.net header' ∧ Braces.net closer = Braces.net closer' := by
  constructor
  · intro h header body closer header' body' closer' hp hq hname
    obtain ⟨s, hs, hsname, hsnets⟩ := ha.exists_span hp
    obtain ⟨t, ht, htname, htnets⟩ := hb.exists_span hq
    have := h s hs t ht (by rw [hsname, htname, hname])
    rw [hsnets, htnets] at this
    exact Prod.mk.inj this
  · intro h s hs t ht hname
    obtain ⟨header, body, closer, hp, hsname, hsnets⟩ := ha.exists_stub hs
    obtain ⟨header', body', closer', hq, htname, htnets⟩ := hb.exists_stub ht
    obtain ⟨h₁, h₂⟩ := h _ _ _ _ _ _ hp hq (by rw [← hsname, ← htname, hname])
    rw [hsnets, htnets, h₁, h₂]

end Edges

/-! ## The lines of a merged file -/

/-- The text of the merge of an edited and a new file. -/
def mergeTexts (convention : Convention) (old new : Text) : Except RenderError Text :=
  render (scan convention new).1 (merge (scan convention old).1 (scan convention new).1).1
    convention.headerLines

/-- The lines of the merge of an edited and a new file. -/
def mergedLines (convention : Convention) (old new : Text) : List Text :=
  renderedLines (mergeStubs (scan convention old).1 (scan convention new).1)
    convention.headerLines 0
    (pendingImports (scan convention new).1
      (merge (scan convention old).1 (scan convention new).1).1)
    (layoutOf convention new.splitLines)

theorem mem_renderedLines {bodies : StubTable} {headerLines index : Nat} {pending : List Text}
    {parts : List Part} {line : Text} :
    line ∈ renderedLines bodies headerLines index pending parts ↔
      line ∈ pending ∨ ∃ part ∈ parts, line ∈ (part.withBodies bodies).lines := by
  have hparts : (∃ part ∈ parts, line ∈ (part.withBodies bodies).lines) ↔
      line ∈ partLines (parts.map (Part.withBodies bodies)) := by
    simp [partLines]
  rw [hparts, ← renderedLines_nil_pending bodies headerLines index]
  simp only [renderedLines, List.mem_append, List.append_nil]
  rw [or_assoc, or_left_comm]

theorem Part.exists_mem_lines (part : Part) : ∃ line, line ∈ part.lines := by
  cases part with
  | copied line => exact ⟨line, by simp [Part.lines]⟩
  | stub header body closer => exact ⟨header, by simp [Part.lines]⟩

section Merged

variable {convention : Convention} {old new : Text}

theorem mem_splitLines_of_mem_part {part : Part} {line : Text}
    (hpart : part ∈ layoutOf convention new.splitLines) (hline : line ∈ part.lines) :
    line ∈ new.splitLines := by
  rw [← partLines_layoutOf convention new.splitLines, partLines, List.mem_flatMap]
  exact ⟨part, hpart, hline⟩

/-- A body of a scanned file consists of lines of that file. -/
theorem mem_splitLines_of_mem_body {name line : Text} {body : List Text}
    (h : (scan convention new).1.stubs.body? name = some body) (hline : line ∈ body) :
    line ∈ new.splitLines := by
  rw [StubTable.body?_eq_some_iff, scan, scanLines_entries, mem_entriesOf] at h
  obtain ⟨header, closer, hstub, -⟩ := h
  exact mem_splitLines_of_mem_part hstub (by simp [Part.lines, hline])

/-- A merged body is the old one, or the new one if there is no old one. -/
theorem body?_mergeStubs (old new : Model) (name : Text) :
    (mergeStubs old new).body? name =
      (new.stubs.body? name).map fun body => (old.stubs.body? name).getD body := by
  rw [mergeStubs, StubTable.body?_mapBodies]

/-- A stub of the new file gets its old body, if there is one. -/
theorem withBodies_mergeStubs {header closer : Text} {body : List Text} (old : Model)
    (h : .stub header body closer ∈ layoutOf convention new.splitLines) :
    (Part.stub header body closer).withBodies (mergeStubs old (scan convention new).1) =
      .stub header ((old.stubs.body? (stubName header)).getD body) closer := by
  have hbody : (scan convention new).1.stubs.body? (stubName header) = some body :=
    (scanLines_hasParts convention new.splitLines).body? h
  rw [Part.withBodies, body?_mergeStubs, hbody]
  rfl

/-- The pending imports are the import lines of the old file that the new one lacks. -/
theorem mem_pendingImports {line : Text} :
    line ∈ pendingImports (scan convention new).1
        (merge (scan convention old).1 (scan convention new).1).1 ↔
      line ∈ (scan convention old).1.imports ∧ line ∉ new.splitLines := by
  have hlines : (scan convention new).1.lines = new.splitLines := rfl
  simp only [pendingImports, merge, mergeImports, List.mem_filter, Text.mem_distinct,
    List.mem_append, hlines, List.contains_eq_mem, Bool.not_eq_true', decide_eq_false_iff_not]
  constructor
  · rintro ⟨hi | hi, hl⟩
    · exact absurd (mem_lines_of_mem_imports hi) hl
    · exact ⟨hi, hl⟩
  · rintro ⟨hi, hl⟩
    exact ⟨Or.inr hi, hl⟩

/-- Every line of a merged file is a line of one of the two files. -/
theorem mem_splitLines_of_mem_mergedLines {line : Text}
    (h : line ∈ mergedLines convention old new) :
    line ∈ old.splitLines ∨ line ∈ new.splitLines := by
  rcases mem_renderedLines.1 h with hp | ⟨part, hpart, hline⟩
  · exact Or.inl (mem_lines_of_mem_imports (mem_pendingImports.1 hp).1)
  · cases part with
    | copied line' => exact Or.inr (mem_splitLines_of_mem_part hpart hline)
    | stub header body closer =>
      rw [withBodies_mergeStubs _ hpart] at hline
      cases hold : (scan convention old).1.stubs.body? (stubName header) with
      | none =>
        rw [hold] at hline
        exact Or.inr (mem_splitLines_of_mem_part hpart hline)
      | some kept =>
        simp only [hold, Option.getD_some, Part.lines, List.mem_append, List.mem_cons,
          List.not_mem_nil, or_false] at hline
        rcases hline with (rfl | hline) | rfl
        · exact Or.inr (mem_splitLines_of_mem_part hpart (by simp [Part.lines]))
        · exact Or.inl (mem_splitLines_of_mem_body hold hline)
        · exact Or.inr (mem_splitLines_of_mem_part hpart (by simp [Part.lines]))

theorem mergedLines_ne_nil : mergedLines convention old new ≠ [] := by
  -- the new file has a line, so it has a part, and every part leaves a line
  obtain ⟨line, hline⟩ := List.exists_mem_of_ne_nil _ (Text.splitLines_ne_nil new)
  rw [← partLines_layoutOf convention new.splitLines, partLines, List.mem_flatMap] at hline
  obtain ⟨part, hpart, -⟩ := hline
  obtain ⟨kept, hkept⟩ := Part.exists_mem_lines
    (part.withBodies (mergeStubs (scan convention old).1 (scan convention new).1))
  exact List.ne_nil_of_mem (mem_renderedLines.2 (Or.inr ⟨part, hpart, hkept⟩))

/-- Which lines a merge has does not depend on where its imports stand. -/
theorem mem_renderedLines_iff {line : Text} (headerLines : Nat) :
    line ∈ renderedLines (mergeStubs (scan convention old).1 (scan convention new).1) headerLines 0
        (pendingImports (scan convention new).1
          (merge (scan convention old).1 (scan convention new).1).1)
        (layoutOf convention new.splitLines) ↔
      line ∈ mergedLines convention old new := by
  rw [mergedLines, mem_renderedLines, mem_renderedLines]

/-- A merge can be rendered with any header, and its lines are the rendered ones. -/
theorem render_merge_eq (convention : Convention) (old new : Text) (headerLines : Nat) :
    ∃ out, render (scan convention new).1
        (merge (scan convention old).1 (scan convention new).1).1 headerLines = .ok out ∧
      out.splitLines = renderedLines
        (mergeStubs (scan convention old).1 (scan convention new).1) headerLines 0
        (pendingImports (scan convention new).1
          (merge (scan convention old).1 (scan convention new).1).1)
        (layoutOf convention new.splitLines) := by
  have hrender := renderLines_scan convention new.splitLines
    (merge (scan convention old).1 (scan convention new).1).1 headerLines
  refine ⟨_, congrArg (Except.map Text.joinLines) hrender,
    Text.splitLines_joinLines ?_ fun line hline => ?_⟩
  · obtain ⟨line, hline⟩ := List.exists_mem_of_ne_nil _ (@mergedLines_ne_nil convention old new)
    exact List.ne_nil_of_mem ((mem_renderedLines_iff headerLines).2 hline)
  · rcases mem_splitLines_of_mem_mergedLines ((mem_renderedLines_iff headerLines).1 hline)
      with h | h
    · exact Text.not_mem_splitLines h
    · exact Text.not_mem_splitLines h

/-- Any two files can be merged, and the lines of the result are known. -/
theorem mergeTexts_eq (convention : Convention) (old new : Text) :
    ∃ out, mergeTexts convention old new = .ok out ∧
      out.splitLines = mergedLines convention old new :=
  render_merge_eq convention old new convention.headerLines

end Merged

end StubGraft
