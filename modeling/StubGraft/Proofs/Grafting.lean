import StubGraft.Proofs.Rendering

/-!
# New bodies and imports in a cut

Rendering works on the parts of a file, and a scan finds segments.  Here the two are brought
together: what rendering does to the parts, said of the segments.

* `graft` — the segments of a file with the bodies of a table in the first block of each name.
* `ignoredFrom` — the spans of the blocks that are ignored because their name is taken.
* `headerSegments` — how many segments start within the header; as long as the header does not
  end inside of an ignored block, the parts of these are the parts within the header.
-/

namespace StubGraft

/-! ## Names already seen -/

/-- The names that are seen after some segments. -/
def seenAfter (seen : List Text) (segs : List Segment) : List Text :=
  (blockNames segs).foldl Text.addNew seen

theorem layout_append (seen : List Text) (a b : List Segment) :
    layout seen (a ++ b) = layout seen a ++ layout (seenAfter seen a) b := by
  induction a generalizing seen with
  | nil => rfl
  | cons seg segs ih =>
    cases seg with
    | plain line => exact congrArg _ (ih seen)
    | unbalanced line => exact congrArg _ (ih seen)
    | oneLine line => exact congrArg _ (ih seen)
    | block header body closer =>
      have hseen : seenAfter seen (.block header body closer :: segs) =
          seenAfter (Text.addNew seen (stubName header)) segs := rfl
      rw [hseen, List.cons_append, layout, layout, Text.addNew]
      split
      · rw [ih, List.append_assoc]
      · rw [ih, List.cons_append]

/-- The parts on both sides of any place between segments. -/
theorem layout_take_append_drop (seen : List Text) (count : Nat) (segs : List Segment) :
    layout seen segs =
      layout seen (segs.take count) ++
        layout (seenAfter seen (segs.take count)) (segs.drop count) := by
  rw [← layout_append, List.take_append_drop]

/-! ## Bodies -/

/-- Some segments that follow stubs of the given names, with the bodies that a table gives to the
first block of each other name. -/
def graft (bodies : StubTable) (seen : List Text) : List Segment → List Segment
  | [] => []
  | .plain line :: segs => .plain line :: graft bodies seen segs
  | .unbalanced line :: segs => .unbalanced line :: graft bodies seen segs
  | .oneLine line :: segs => .oneLine line :: graft bodies seen segs
  | .block header body closer :: segs =>
    if stubName header ∈ seen then .block header body closer :: graft bodies seen segs
    else
      .block header ((bodies.body? (stubName header)).getD body) closer ::
        graft bodies (seen ++ [stubName header]) segs

/-- The stubs of the grafted segments are those of the segments with the bodies of the table. -/
theorem layout_graft (bodies : StubTable) (seen : List Text) (segs : List Segment) :
    layout seen (graft bodies seen segs) =
      (layout seen segs).map (Part.withBodies bodies) := by
  induction segs generalizing seen with
  | nil => rfl
  | cons seg segs ih =>
    cases seg with
    | plain line => exact congrArg _ (ih seen)
    | unbalanced line => exact congrArg _ (ih seen)
    | oneLine line => exact congrArg _ (ih seen)
    | block header body closer =>
      by_cases hseen : stubName header ∈ seen
      · rw [graft, if_pos hseen, layout, if_pos hseen, layout, if_pos hseen, ih, List.map_append]
        simp [Part.withBodies]
      · rw [graft, if_neg hseen, layout, if_neg hseen, layout, if_neg hseen, ih]
        rfl

theorem linesOf_graft (bodies : StubTable) (seen : List Text) (segs : List Segment) :
    linesOf (graft bodies seen segs) =
      partLines ((layout seen segs).map (Part.withBodies bodies)) := by
  rw [← partLines_layout seen, layout_graft]

/-- Outside of stubs nothing changes. -/
theorem mem_graft {bodies : StubTable} {seen : List Text} {segs : List Segment} {seg : Segment}
    (h : seg ∈ graft bodies seen segs) :
    seg ∈ segs ∨ ∃ header body closer, .stub header body closer ∈ layout seen segs ∧
      seg = .block header ((bodies.body? (stubName header)).getD body) closer := by
  induction segs generalizing seen with
  | nil => simp [graft] at h
  | cons first segs ih =>
    cases first with
    | plain line =>
      rcases List.mem_cons.1 h with rfl | h
      · exact Or.inl List.mem_cons_self
      · exact (ih h).imp (List.mem_cons_of_mem _) (by simp [layout])
    | unbalanced line =>
      rcases List.mem_cons.1 h with rfl | h
      · exact Or.inl List.mem_cons_self
      · exact (ih h).imp (List.mem_cons_of_mem _) (by simp [layout])
    | oneLine line =>
      rcases List.mem_cons.1 h with rfl | h
      · exact Or.inl List.mem_cons_self
      · exact (ih h).imp (List.mem_cons_of_mem _) (by simp [layout])
    | block header body closer =>
      rw [graft] at h
      rw [layout]
      split at h
      · rw [if_pos ‹_›]
        rcases List.mem_cons.1 h with rfl | h
        · exact Or.inl List.mem_cons_self
        · refine (ih h).imp (List.mem_cons_of_mem _) ?_
          rintro ⟨header', body', closer', hstub, he⟩
          exact ⟨header', body', closer', List.mem_append_right _ hstub, he⟩
      · rw [if_neg ‹_›]
        rcases List.mem_cons.1 h with rfl | h
        · exact Or.inr ⟨header, body, closer, List.mem_cons_self, rfl⟩
        · refine (ih h).imp (List.mem_cons_of_mem _) ?_
          rintro ⟨header', body', closer', hstub, he⟩
          exact ⟨header', body', closer', List.mem_cons_of_mem _ hstub, he⟩

/-- What does not look at bodies does not see the graft. -/
theorem filterMap_graft {f : Segment → Option Text}
    (hf : ∀ header body body' closer,
      f (.block header body closer) = f (.block header body' closer))
    (bodies : StubTable) (seen : List Text) (segs : List Segment) :
    (graft bodies seen segs).filterMap f = segs.filterMap f := by
  induction segs generalizing seen with
  | nil => rfl
  | cons seg segs ih =>
    cases seg with
    | plain line => rw [graft, List.filterMap_cons, ih, List.filterMap_cons]
    | unbalanced line => rw [graft, List.filterMap_cons, ih, List.filterMap_cons]
    | oneLine line => rw [graft, List.filterMap_cons, ih, List.filterMap_cons]
    | block header body closer =>
      rw [graft]
      split
      · rw [List.filterMap_cons, ih, List.filterMap_cons]
      · rw [List.filterMap_cons, ih, List.filterMap_cons, hf header _ body]

theorem blockNames_graft (bodies : StubTable) (seen : List Text) (segs : List Segment) :
    blockNames (graft bodies seen segs) = blockNames segs :=
  filterMap_graft (fun _ _ _ _ => rfl) bodies seen segs

theorem singles_graft (bodies : StubTable) (seen : List Text) (segs : List Segment) :
    singles (graft bodies seen segs) = singles segs :=
  filterMap_graft (fun _ _ _ _ => rfl) bodies seen segs

/-! ## The header -/

/-- The spans of the ignored blocks among some segments that follow stubs of the given names, when
the first segment starts at a position. -/
def ignoredFrom (seen : List Text) (position : Nat) : List Segment → List Span
  | [] => []
  | .plain _ :: segs => ignoredFrom seen (position + 1) segs
  | .unbalanced _ :: segs => ignoredFrom seen (position + 1) segs
  | .oneLine _ :: segs => ignoredFrom seen (position + 1) segs
  | .block header body _ :: segs =>
    if stubName header ∈ seen then
      ⟨stubName header, position, position + body.length + 1⟩ ::
        ignoredFrom seen (position + body.length + 2) segs
    else ignoredFrom (seen ++ [stubName header]) (position + body.length + 2) segs

/-- Without a warning of duplicates no block is ignored. -/
theorem ignoredFrom_eq_nil {seen : List Text} {position : Nat} {segs : List Segment}
    (h : ∀ name line, .duplicateStub name line ∉ warnings seen position segs) :
    ignoredFrom seen position segs = [] := by
  induction segs generalizing seen position with
  | nil => rfl
  | cons seg segs ih =>
    cases seg with
    | plain line => exact ih h
    | unbalanced line => exact ih fun name line hm => h name line (List.mem_cons_of_mem _ hm)
    | oneLine line => exact ih fun name line hm => h name line (List.mem_cons_of_mem _ hm)
    | block header body closer =>
      rw [warnings] at h
      rw [ignoredFrom]
      split at h
      · exact absurd List.mem_cons_self (h _ _)
      · rw [if_neg ‹_›]
        exact ih h

/-- How many of some segments start before the end of the header, when the first starts at an
index. -/
def headerSegments (headerLines index : Nat) : List Segment → Nat
  | [] => 0
  | seg :: segs =>
    if headerLines ≤ index then 0
    else headerSegments headerLines (index + seg.lines.length) segs + 1

theorem headerParts_of_le {headerLines index : Nat} (h : headerLines ≤ index)
    (parts : List Part) : headerParts headerLines index parts = 0 := by
  cases parts with
  | nil => rfl
  | cons part parts => rw [headerParts, if_pos h]

/-- Copied lines within the header are all counted. -/
theorem headerParts_copied_append {headerLines index : Nat} {lines : List Text}
    (h : index + lines.length ≤ headerLines) (parts : List Part) :
    headerParts headerLines index (lines.map .copied ++ parts) =
      lines.length + headerParts headerLines (index + lines.length) parts := by
  induction lines generalizing index with
  | nil => simp
  | cons line lines ih =>
    rw [List.length_cons] at h ⊢
    have hlt : ¬ headerLines ≤ index := by omega
    have hnext : index + (Part.copied line).lines.length = index + 1 := rfl
    have hend : index + 1 + lines.length = index + (lines.length + 1) := by omega
    rw [List.map_cons, List.cons_append, headerParts, if_neg hlt, hnext, ih (by omega), hend]
    omega

/-- If the header does not end inside of an ignored block, the parts within the header are those of
the segments within it. -/
theorem headerParts_layout {headerLines index : Nat} {seen : List Text} {segs : List Segment}
    (h : ∀ span ∈ ignoredFrom seen index segs,
      headerLines ≤ span.first ∨ span.last < headerLines) :
    headerParts headerLines index (layout seen segs) =
      (layout seen (segs.take (headerSegments headerLines index segs))).length := by
  induction segs generalizing seen index with
  | nil => rfl
  | cons seg segs ih =>
    by_cases hle : headerLines ≤ index
    · rw [headerParts_of_le hle, headerSegments, if_pos hle]
      rfl
    rw [headerSegments, if_neg hle, List.take_succ_cons]
    cases seg with
    | plain line =>
      rw [layout, headerParts, if_neg hle, layout, List.length_cons]
      exact congrArg (· + 1) (ih h)
    | unbalanced line =>
      rw [layout, headerParts, if_neg hle, layout, List.length_cons]
      exact congrArg (· + 1) (ih h)
    | oneLine line =>
      rw [layout, headerParts, if_neg hle, layout, List.length_cons]
      exact congrArg (· + 1) (ih h)
    | block header body closer =>
      have hlines : (Segment.block header body closer).lines = header :: body ++ [closer] := rfl
      have hlen : index + body.length + 2 = index + (header :: body ++ [closer]).length := by
        simp only [List.length_append, List.length_cons, List.length_nil]
        omega
      rw [ignoredFrom, hlen] at h
      rw [hlines, layout, layout]
      by_cases hseen : stubName header ∈ seen
      · rw [if_pos hseen] at h
        -- the header ends behind the ignored block, so it holds all of its lines
        have hfit : index + (header :: body ++ [closer]).length ≤ headerLines := by
          have hend := h _ List.mem_cons_self
          simp only at hend
          omega
        rw [if_pos hseen, if_pos hseen, headerParts_copied_append hfit,
          ih fun span hspan => h span (List.mem_cons_of_mem _ hspan),
          @List.length_append _ (List.map _ _), List.length_map]
      · rw [if_neg hseen] at h
        rw [if_neg hseen, if_neg hseen, headerParts, if_neg hle, List.length_cons]
        exact congrArg (· + 1) (ih h)

end StubGraft
