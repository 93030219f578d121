import StubGraft.Proofs.Merging

/-!
# A rendering, line by line

The renderer walks along the new file and jumps over its stubs.  Here its result is given by line
numbers: what takes the place of each line, and at which line the imports are inserted.

* `Model.TopLevel`, `Model.insertionIndex` — the first line behind the header that belongs to no
  stub, or starts one.
* `Model.grafted`, `Model.graftedLines` — the lines of a file with other bodies in its stubs.
* `Model.HasParts.graftedLines_eq`, `Model.HasParts.find?_topLevel` — both along the parts of a
  file.
* `render_merge_lines` — the lines of a merge.
-/

namespace StubGraft

/-! ## Lines of a model -/

/-- A line stands outside of the stubs, or is the declaring line of one. -/
def Model.TopLevel (model : Model) (index : Nat) : Prop :=
  ∀ span ∈ model.spans, index ≤ span.first ∨ span.last < index

instance (model : Model) (index : Nat) : Decidable (model.TopLevel index) :=
  inferInstanceAs (Decidable (∀ span ∈ model.spans, index ≤ span.first ∨ span.last < index))

/-- The index of the first such line at or after the header; the number of lines if there is
none. -/
def Model.insertionIndex (model : Model) (headerLines : Nat) : Nat :=
  ((List.range model.lines.length).find? fun index =>
    headerLines ≤ index ∧ model.TopLevel index).getD model.lines.length

/-- What takes the place of a line when the stubs get the bodies of a table: nothing for a line
inside of a stub, the line and the new body for a declaring line, and else the line. -/
def Model.grafted (model : Model) (bodies : StubTable) (index : Nat) : List Text :=
  if ∃ span ∈ model.spans, span.first < index ∧ index < span.last then []
  else
    model.lines.getD index [] ::
      match model.spans.find? fun span => span.first = index with
      | none => []
      | some span => (bodies.body? span.name).getD []

/-- What takes the place of the lines from an index up to another one. -/
def Model.graftedLines (model : Model) (bodies : StubTable) (first last : Nat) : List Text :=
  (List.range' first (last - first)).flatMap (model.grafted bodies)

/-! ## Along the parts of a file -/

namespace Model.HasParts

variable {model : Model} {before after : List Part} {part : Part}

/-- The spans before a part end above it, and the spans behind it start below it. -/
theorem spans_eq (h : model.HasParts (before ++ part :: after)) :
    ∃ above below, model.spans = above ++ spansFrom (partLines before).length [part] ++ below ∧
      (∀ span ∈ above, span.first < span.last ∧ span.last < (partLines before).length) ∧
      ∀ span ∈ below, (partLines before).length + part.lines.length ≤ span.first := by
  refine ⟨spansFrom 0 before,
    spansFrom ((partLines before).length + (partLines [part]).length) after, ?_, ?_, ?_⟩
  · have hsplit : before ++ part :: after = before ++ ([part] ++ after) := rfl
    rw [h.spans, hsplit, spansFrom_append, spansFrom_append, Nat.zero_add, List.append_assoc]
  · intro span hspan
    have := spansFrom_bounds hspan
    omega
  · intro span hspan
    have := (spansFrom_bounds hspan).1
    simpa using this

/-- A line of a part is inside of a stub only if that stub is the part. -/
theorem exists_inside_iff {index : Nat} (h : model.HasParts (before ++ part :: after))
    (hle : (partLines before).length ≤ index)
    (hlt : index < (partLines before).length + part.lines.length) :
    (∃ span ∈ model.spans, span.first < index ∧ index < span.last) ↔
      ∃ span ∈ spansFrom (partLines before).length [part],
        span.first < index ∧ index < span.last := by
  obtain ⟨above, below, hspans, habove, hbelow⟩ := h.spans_eq
  rw [hspans]
  constructor
  · rintro ⟨span, hspan, hfirst, hlast⟩
    rcases List.mem_append.1 hspan with hspan | hspan
    · rcases List.mem_append.1 hspan with hspan | hspan
      · have := habove span hspan
        omega
      · exact ⟨span, hspan, hfirst, hlast⟩
    · have := hbelow span hspan
      omega
  · rintro ⟨span, hspan, hbounds⟩
    exact ⟨span, by simp [hspan], hbounds⟩

/-- A line of a part declares a stub only if that stub is the part. -/
theorem find?_first {index : Nat} (h : model.HasParts (before ++ part :: after))
    (hle : (partLines before).length ≤ index)
    (hlt : index < (partLines before).length + part.lines.length) :
    model.spans.find? (fun span => span.first = index) =
      (spansFrom (partLines before).length [part]).find? fun span => span.first = index := by
  obtain ⟨above, below, hspans, habove, hbelow⟩ := h.spans_eq
  have hnone : ∀ spans : List Span, (∀ span ∈ spans, span.first ≠ index) →
      spans.find? (fun span => span.first = index) = none := by
    intro spans hne
    rw [List.find?_eq_none]
    simpa using hne
  have habove' := hnone above fun span hspan => by
    have := habove span hspan
    omega
  have hbelow' := hnone below fun span hspan => by
    have := hbelow span hspan
    omega
  rw [hspans, List.find?_append, List.find?_append, habove', hbelow', Option.none_or,
    Option.or_none]

theorem getD_add (h : model.HasParts (before ++ part :: after)) {offset : Nat}
    (hlt : offset < part.lines.length) :
    model.lines.getD ((partLines before).length + offset) [] = part.lines.getD offset [] := by
  rw [List.getD_eq_getElem?_getD, List.getD_eq_getElem?_getD, h.lines, partLines_append,
    List.getElem?_append_right (by omega), partLines_cons, Nat.add_sub_cancel_left,
    List.getElem?_append_left hlt]

/-- What takes the place of a line depends on its part alone. -/
theorem grafted_add (h : model.HasParts (before ++ part :: after)) (bodies : StubTable)
    {offset : Nat} (hlt : offset < part.lines.length) :
    model.grafted bodies ((partLines before).length + offset) =
      if ∃ span ∈ spansFrom (partLines before).length [part],
          span.first < (partLines before).length + offset ∧
            (partLines before).length + offset < span.last then []
      else
        part.lines.getD offset [] ::
          match (spansFrom (partLines before).length [part]).find? fun span =>
            span.first = (partLines before).length + offset with
          | none => []
          | some span => (bodies.body? span.name).getD [] := by
  have hle : (partLines before).length ≤ (partLines before).length + offset :=
    Nat.le_add_right _ _
  have hlt' := Nat.add_lt_add_left hlt (partLines before).length
  simp only [Model.grafted, h.exists_inside_iff hle hlt', h.find?_first hle hlt', h.getD_add hlt]

/-- A part is replaced by the part with its new body. -/
theorem flatMap_grafted (h : model.HasParts (before ++ part :: after)) {bodies : StubTable}
    (hbodies : ∀ span ∈ model.spans, ∃ body, bodies.body? span.name = some body) :
    (List.range' (partLines before).length part.lines.length).flatMap (model.grafted bodies) =
      (part.withBodies bodies).lines := by
  have hgrafted := fun offset => @grafted_add model before after part h bodies offset
  cases part with
  | copied line =>
    have hline : model.grafted bodies (partLines before).length = [line] := by
      simpa [spansFrom, Part.lines] using hgrafted 0 (by simp [Part.lines])
    simp [Part.lines, Part.withBodies, hline]
  | stub header body closer =>
    obtain ⟨span, hspan, hname, -⟩ := @exists_span model _ header closer body h (by simp)
    obtain ⟨kept, hkept⟩ := hbodies span hspan
    rw [hname] at hkept
    have hlen : (Part.stub header body closer).lines.length = body.length + 1 + 1 := by
      simp [Part.lines]
    have hfirst : model.grafted bodies (partLines before).length = header :: kept := by
      simpa [spansFrom, Part.lines, hkept] using hgrafted 0 (by simp [Part.lines])
    have hlast : model.grafted bodies ((partLines before).length + (body.length + 1)) =
        [closer] := by
      have hend : (partLines before).length + (body.length + 1) =
          (partLines before).length + body.length + 1 := rfl
      have hbelow : ¬ (partLines before).length = (partLines before).length + body.length + 1 := by
        omega
      simpa [spansFrom, Part.lines, hend, hbelow] using
        hgrafted (body.length + 1) (by simp [Part.lines])
    have hinside : ∀ index ∈ List.range' ((partLines before).length + 1) body.length,
        model.grafted bodies index = [] := by
      intro index hindex
      obtain ⟨offset, hoffset, rfl⟩ := List.mem_range'.1 hindex
      have hlt : offset + 1 < (Part.stub header body closer).lines.length := by
        rw [hlen]
        omega
      rw [Nat.one_mul, Nat.add_right_comm, Nat.add_assoc, hgrafted (offset + 1) hlt, if_pos]
      exact ⟨_, List.mem_singleton_self _, by simp, by simp; omega⟩
    have hrange : List.range' (partLines before).length (body.length + 1 + 1) =
        (partLines before).length :: List.range' ((partLines before).length + 1) body.length ++
          [(partLines before).length + (body.length + 1)] := by
      rw [List.range'_1_concat, List.range'_succ]
    rw [hlen, hrange, List.flatMap_append, List.flatMap_cons, hfirst, List.flatMap_singleton, hlast,
      List.flatMap_eq_nil_iff.2 hinside]
    simp [Part.withBodies, Part.lines, hkept]

/-- Any stretch of parts is replaced by these parts with their new bodies. -/
theorem graftedLines_eq {bodies : StubTable} {middle : List Part}
    (h : model.HasParts (before ++ (middle ++ after)))
    (hbodies : ∀ span ∈ model.spans, ∃ body, bodies.body? span.name = some body) :
    model.graftedLines bodies (partLines before).length
        ((partLines before).length + (partLines middle).length) =
      partLines (middle.map (Part.withBodies bodies)) := by
  rw [graftedLines, Nat.add_sub_cancel_left]
  induction middle generalizing before with
  | nil => rfl
  | cons part middle ih =>
    have hrest := @ih (before ++ [part]) (by simpa using h)
    rw [partLines_append, partLines_cons, partLines_nil, List.append_nil, List.length_append]
      at hrest
    rw [partLines_cons, List.length_append, ← List.range'_append_1, List.flatMap_append, hrest,
      h.flatMap_grafted hbodies]
    rfl

/-- Of the lines of a part only the first stands at top level. -/
theorem topLevel_iff {index : Nat} (h : model.HasParts (before ++ part :: after))
    (hle : (partLines before).length ≤ index)
    (hlt : index < (partLines before).length + part.lines.length) :
    model.TopLevel index ↔ index = (partLines before).length := by
  obtain ⟨above, below, hspans, habove, hbelow⟩ := h.spans_eq
  constructor
  · intro htop
    cases part with
    | copied line =>
      simp only [Part.lines, List.length_singleton] at hlt
      omega
    | stub header body closer =>
      have hown := htop ⟨stubName header, (partLines before).length,
        (partLines before).length + body.length + 1⟩ (by simp [hspans, spansFrom])
      simp only [Part.lines, List.cons_append, List.length_cons, List.length_append,
        List.length_nil] at hlt
      simp only at hown
      omega
  · rintro rfl span hspan
    rw [hspans] at hspan
    rcases List.mem_append.1 hspan with hspan | hspan
    · rcases List.mem_append.1 hspan with hspan | hspan
      · exact Or.inr (habove span hspan).2
      · exact Or.inl (spansFrom_bounds hspan).1
    · have := hbelow span hspan
      exact Or.inl (by omega)

/-- The search for a line at top level behind the header stops where the parts of the header end. -/
theorem find?_topLevel (h : model.HasParts (before ++ after)) (headerLines : Nat) :
    ((List.range' (partLines before).length (partLines after).length).find? fun index =>
        headerLines ≤ index ∧ model.TopLevel index).getD model.lines.length =
      (partLines before).length +
        (partLines (after.take
          (headerParts headerLines (partLines before).length after))).length := by
  induction after generalizing before with
  | nil =>
    simp [h.lines]
  | cons part after ih =>
    have hrest := @ih (before ++ [part]) (by simpa using h)
    rw [partLines_append, partLines_cons, partLines_nil, List.append_nil, List.length_append]
      at hrest
    have htop := fun index => @topLevel_iff model before after part index h
    rw [partLines_cons, List.length_append, ← List.range'_append_1, List.find?_append, headerParts]
    by_cases hheader : headerLines ≤ (partLines before).length
    · -- the first line of the part is found
      obtain ⟨count, hcount⟩ : ∃ count, part.lines.length = count + 1 := by
        cases part <;> exact ⟨_, rfl⟩
      have hfirst : model.TopLevel (partLines before).length :=
        (htop _ (Nat.le_refl _) (by omega)).2 rfl
      rw [hcount, List.range'_succ, List.find?_cons_of_pos (by simp [hheader, hfirst]),
        if_pos hheader]
      simp
    · -- no line of the part is
      have hnone : (List.range' (partLines before).length part.lines.length).find?
          (fun index => headerLines ≤ index ∧ model.TopLevel index) = none := by
        rw [List.find?_eq_none]
        intro index hindex hfound
        have hbounds := List.mem_range'_1.1 hindex
        obtain ⟨hle, hindexTop⟩ := of_decide_eq_true hfound
        rw [(htop index hbounds.1 hbounds.2).1 hindexTop] at hle
        exact hheader hle
      rw [hnone, Option.none_or, hrest, if_neg hheader, List.take_succ_cons, partLines_cons,
        List.length_append, Nat.add_assoc]

variable {parts : List Part}

/-- The imports are inserted behind the parts of the header. -/
theorem insertionIndex_eq (h : model.HasParts parts) (headerLines : Nat) :
    model.insertionIndex headerLines =
      (partLines (parts.take (headerParts headerLines 0 parts))).length := by
  have hfind := @find?_topLevel model [] parts h headerLines
  rw [← h.lines, partLines_nil, List.length_nil, Nat.zero_add, ← List.range_eq_range'] at hfind
  exact hfind

/-- What is rendered are the lines with their new bodies, before and after the place of the
imports. -/
theorem renderedLines_eq {bodies : StubTable} (h : model.HasParts parts) (headerLines : Nat)
    (pending : List Text)
    (hbodies : ∀ span ∈ model.spans, ∃ body, bodies.body? span.name = some body) :
    renderedLines bodies headerLines 0 pending parts =
      model.graftedLines bodies 0 (model.insertionIndex headerLines) ++ pending ++
        model.graftedLines bodies (model.insertionIndex headerLines) model.lines.length := by
  rw [h.insertionIndex_eq headerLines, renderedLines]
  generalize headerParts headerLines 0 parts = count
  have hsplit : parts = parts.take count ++ parts.drop count := (List.take_append_drop ..).symm
  have hfirst := @graftedLines_eq model [] (parts.drop count) bodies (parts.take count)
    (by simpa using h) hbodies
  have hsecond := @graftedLines_eq model (parts.take count) [] bodies (parts.drop count)
    (by simpa using h) hbodies
  have hlength : model.lines.length =
      (partLines (parts.take count)).length + (partLines (parts.drop count)).length := by
    rw [← List.length_append, ← partLines_append, ← hsplit, h.lines]
  rw [partLines_nil, List.length_nil, Nat.zero_add] at hfirst
  rw [hlength, hfirst, hsecond]

end Model.HasParts

/-! ## The lines of a merge -/

section Merged

variable {convention : Convention} {old new : Text}

/-- Every recorded stub of the new file has a merged body. -/
theorem exists_body?_mergeStubs (old : Model) {span : Span}
    (h : span ∈ (scan convention new).1.spans) :
    ∃ body, (mergeStubs old (scan convention new).1).body? span.name = some body := by
  have hparts := scanLines_hasParts convention new.splitLines
  obtain ⟨header, body, closer, hstub, hname, -⟩ := hparts.exists_stub h
  have hbody : (scan convention new).1.stubs.body? (stubName header) = some body :=
    hparts.body? hstub
  rw [hname, body?_mergeStubs, hbody]
  exact ⟨_, rfl⟩

end Merged

/-- The exact shape of a merged file.  Its lines are those of the new file up to the first line at
top level behind the header, then the pending imports in the order of the merge, then the other
lines of the new file; on both sides the lines inside of each recorded stub are replaced by the
merged body, which exists, and every other line stands once, in its place. -/
theorem render_merge_lines (convention : Convention) (old new : Text) (headerLines : Nat) :
    let model := (scan convention new).1
    let merged := (merge (scan convention old).1 model).1
    let cut := model.insertionIndex headerLines
    (∀ span ∈ model.spans, ∃ body, merged.stubs.body? span.name = some body) ∧
    ∃ out, render model merged headerLines = .ok out ∧
      out.splitLines = model.graftedLines merged.stubs 0 cut ++ pendingImports model merged ++
        model.graftedLines merged.stubs cut model.lines.length := by
  intro model merged cut
  have hbodies : ∀ span ∈ model.spans, ∃ body, merged.stubs.body? span.name = some body :=
    fun span hspan => exists_body?_mergeStubs _ hspan
  have hparts : model.HasParts (layoutOf convention new.splitLines) :=
    scanLines_hasParts convention new.splitLines
  obtain ⟨out, hout, hlines⟩ := render_merge_eq convention old new headerLines
  refine ⟨hbodies, out, hout, ?_⟩
  rw [hlines]
  exact hparts.renderedLines_eq headerLines _ hbodies

end StubGraft
