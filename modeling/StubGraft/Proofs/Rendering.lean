import StubGraft.Merge.Render
import StubGraft.Proofs.Layout

/-!
# What a rendering looks like

The renderer passes along the lines of the new file with an index and the imports still to be
placed, one part of the file in a round.  Its result is described here by the layout of the file:
every stub gets its merged body, every other line is copied, and the pending imports stand
before the first part that starts at or after the header (`renderLines_scan`).
-/

namespace StubGraft

/-! ## New bodies for stubs -/

/-- A part with the body that a table gives to its stub, if it gives one. -/
def Part.withBodies (bodies : StubTable) : Part → Part
  | .copied line => .copied line
  | .stub header body closer => .stub header ((bodies.body? (stubName header)).getD body) closer

/-- How many of some parts start before the end of the header, when the first starts at an index. -/
def headerParts (headerLines index : Nat) : List Part → Nat
  | [] => 0
  | part :: parts =>
    if headerLines ≤ index then 0
    else headerParts headerLines (index + part.lines.length) parts + 1

/-- The lines of some parts with the bodies of a table, and the pending imports before the first
part at or after the header. -/
def renderedLines (bodies : StubTable) (headerLines index : Nat) (pending : List Text)
    (parts : List Part) : List Text :=
  let count := headerParts headerLines index parts
  partLines ((parts.take count).map (Part.withBodies bodies)) ++ pending ++
    partLines ((parts.drop count).map (Part.withBodies bodies))

/-- Without pending imports the header does not matter. -/
theorem renderedLines_nil_pending (bodies : StubTable) (headerLines index : Nat)
    (parts : List Part) :
    renderedLines bodies headerLines index [] parts =
      partLines (parts.map (Part.withBodies bodies)) := by
  rw [renderedLines, List.append_nil, ← partLines_append, ← List.map_append, List.take_append_drop]

theorem renderedLines_cons_of_le {bodies : StubTable} {headerLines index : Nat}
    (h : headerLines ≤ index) (pending : List Text) (part : Part) (parts : List Part) :
    renderedLines bodies headerLines index pending (part :: parts) =
      pending ++ (part.withBodies bodies).lines ++
        partLines (parts.map (Part.withBodies bodies)) := by
  simp [renderedLines, headerParts, h]

theorem renderedLines_cons_of_lt {bodies : StubTable} {headerLines index : Nat}
    (h : ¬ headerLines ≤ index) (pending : List Text) (part : Part) (parts : List Part) :
    renderedLines bodies headerLines index pending (part :: parts) =
      (part.withBodies bodies).lines ++
        renderedLines bodies headerLines (index + part.lines.length) pending parts := by
  simp [renderedLines, headerParts, h]

/-! ## The pass along the lines -/

theorem spanAt?_eq_none {spans : List Span} {index : Nat} (h : ∀ span ∈ spans, span.first ≠ index) :
    spanAt? spans index = none := by
  rw [spanAt?, List.getLast?_eq_none_iff, List.filter_eq_nil_iff]
  simpa using h

theorem spanAt?_eq_some {before after : List Span} {span : Span} {index : Nat}
    (hspan : span.first = index) (h : ∀ s ∈ after, s.first ≠ index) :
    spanAt? (before ++ span :: after) index = some span := by
  have hafter : after.filter (fun s => decide (s.first = index)) = [] := by
    rw [List.filter_eq_nil_iff]
    simpa using h
  simp [spanAt?, hspan, hafter]

/-- A model has the given parts: they are its lines, its spans and its table. -/
structure Model.HasParts (model : Model) (parts : List Part) : Prop where
  /-- The lines are those of the parts. -/
  lines : model.lines = partLines parts
  /-- The spans are those of the stubs. -/
  spans : model.spans = spansFrom 0 parts
  /-- The table is that of the stubs. -/
  entries : model.stubs.entries = entriesOf parts

theorem scanLines_hasParts (convention : Convention) (lines : List Text) :
    (scanLines convention lines).1.HasParts (layoutOf convention lines) :=
  ⟨(partLines_layoutOf convention lines).symm, scanLines_spans, scanLines_entries⟩

variable {model : Model} {before after : List Part}

theorem Model.HasParts.body? {header closer : Text} {body : List Text} {parts : List Part}
    (h : model.HasParts parts) (hstub : .stub header body closer ∈ parts) :
    model.stubs.body? (stubName header) = some body := by
  rw [StubTable.body?_eq_some_iff, h.entries, mem_entriesOf]
  exact ⟨header, closer, hstub, rfl⟩

/-- At a copied line no span starts. -/
theorem Model.HasParts.spanAt?_copied {line : Text}
    (h : model.HasParts (before ++ .copied line :: after)) :
    spanAt? model.spans (partLines before).length = none := by
  refine spanAt?_eq_none fun span hspan => ?_
  rw [h.spans, spansFrom_append, List.mem_append] at hspan
  rcases hspan with hspan | hspan
  · have := spansFrom_bounds hspan
    omega
  · have := spansFrom_bounds (show span ∈ spansFrom (0 + (partLines before).length + 1) after
      from hspan)
    omega

/-- At the declaring line of a stub its span starts. -/
theorem Model.HasParts.spanAt?_stub {header closer : Text} {body : List Text}
    (h : model.HasParts (before ++ .stub header body closer :: after)) :
    spanAt? model.spans (partLines before).length =
      some ⟨stubName header, (partLines before).length,
        (partLines before).length + body.length + 1⟩ := by
  rw [h.spans, spansFrom_append, Nat.zero_add, spansFrom]
  refine spanAt?_eq_some rfl fun span hspan => ?_
  have := spansFrom_bounds hspan
  omega

theorem Model.HasParts.renderStub {header closer : Text} {body : List Text}
    (h : model.HasParts (before ++ .stub header body closer :: after)) (merged : Merged) :
    renderStub model merged ⟨stubName header, (partLines before).length,
        (partLines before).length + body.length + 1⟩ =
      .ok ((merged.stubs.body? (stubName header)).getD body, closer) := by
  have hmem : Part.stub header body closer ∈ before ++ .stub header body closer :: after := by simp
  have hbody := h.body? hmem
  have hline : model.lines[(partLines before).length + body.length + 1]? = some closer := by
    have hoffset : (partLines before).length + body.length + 1 - (partLines before).length =
        body.length + 1 := by omega
    rw [h.lines, partLines_append, partLines_cons, Part.lines,
      List.getElem?_append_right (by omega), hoffset]
    simp
  simp [StubGraft.renderStub, hbody, hline]

/-- A round writes a part with its body, the imports before it if the header is over, and goes on
behind the part. -/
theorem Model.HasParts.round {part : Part} (h : model.HasParts (before ++ part :: after))
    (merged : Merged) (headerLines : Nat) (pending : List Text) :
    Pass.round model merged headerLines ⟨(partLines before).length, pending⟩ =
      .ok (some
        ((if headerLines ≤ (partLines before).length then pending else []) ++
          (part.withBodies merged.stubs).lines,
        ⟨(partLines before).length + part.lines.length,
          if headerLines ≤ (partLines before).length then [] else pending⟩)) := by
  cases part with
  | copied line =>
    have hline : model.lines[(partLines before).length]? = some line := by
      rw [h.lines, partLines_append, partLines_cons, Part.lines]
      simp
    simp only [Pass.round, hline, h.spanAt?_copied]
    rfl
  | stub header body closer =>
    have hline : model.lines[(partLines before).length]? = some header := by
      rw [h.lines, partLines_append, partLines_cons, Part.lines]
      simp
    have hnext : (partLines before).length + (Part.stub header body closer).lines.length =
        (partLines before).length + body.length + 1 + 1 := by
      simp [Part.lines]
      omega
    simp only [Pass.round, hline, h.spanAt?_stub, h.renderStub merged, hnext]
    rfl

/-- There is no round behind the last part. -/
theorem Model.HasParts.round_end (h : model.HasParts before) (merged : Merged)
    (headerLines : Nat) (pending : List Text) :
    Pass.round model merged headerLines ⟨(partLines before).length, pending⟩ = .ok none := by
  have hline : model.lines[(partLines before).length]? = none := by
    rw [h.lines, List.getElem?_eq_none_iff]
  simp only [Pass.round, hline]

/-- From the start of any part on, as many rounds as there are parts give the rendered lines. -/
theorem Model.HasParts.renderFrom (merged : Merged) (headerLines rounds : Nat)
    (pending : List Text) (h : model.HasParts (before ++ after)) (hrounds : after.length ≤ rounds) :
    renderFrom model merged headerLines rounds ⟨(partLines before).length, pending⟩ =
      .ok (renderedLines merged.stubs headerLines (partLines before).length pending after) := by
  induction after generalizing before pending rounds with
  | nil =>
    rw [List.append_nil] at h
    unfold StubGraft.renderFrom
    rw [h.round_end]
    simp [renderedLines]
  | cons part parts ih =>
    obtain _ | rounds := rounds
    · exact absurd hrounds (Nat.not_succ_le_zero _)
    -- the pass behind this part, whichever imports are still to be placed there
    have hnext : model.HasParts ((before ++ [part]) ++ parts) := by simpa using h
    have hlen : (partLines (before ++ [part])).length =
        (partLines before).length + part.lines.length := by simp
    have later := fun pending => ih rounds pending hnext (Nat.le_of_succ_le_succ hrounds)
    simp only [hlen] at later
    rw [StubGraft.renderFrom, h.round]
    by_cases hheader : headerLines ≤ (partLines before).length
    · simp only [if_pos hheader, later, Except.map]
      rw [renderedLines_cons_of_le hheader, renderedLines_nil_pending]
    · simp only [if_neg hheader, later, Except.map]
      rw [renderedLines_cons_of_lt hheader, List.nil_append]

/-- Every part has a line of its own. -/
theorem length_le_length_partLines (parts : List Part) :
    parts.length ≤ (partLines parts).length := by
  induction parts with
  | nil => exact Nat.le_refl 0
  | cons part parts ih =>
    cases part <;> simp only [partLines_cons, Part.lines, List.length_append, List.length_cons] <;>
      omega

/-- A scanned file is rendered from its layout. -/
theorem renderLines_scan (convention : Convention) (lines : List Text) (merged : Merged)
    (headerLines : Nat) :
    renderLines (scanLines convention lines).1 merged headerLines =
      .ok (renderedLines merged.stubs headerLines 0
        (pendingImports (scanLines convention lines).1 merged) (layoutOf convention lines)) := by
  have hrounds : (layoutOf convention lines).length ≤ lines.length := by
    have := length_le_length_partLines (layoutOf convention lines)
    rwa [partLines_layoutOf] at this
  exact @Model.HasParts.renderFrom _ [] (layoutOf convention lines) merged headerLines lines.length
    (pendingImports (scanLines convention lines).1 merged) (scanLines_hasParts convention lines)
    hrounds

end StubGraft
