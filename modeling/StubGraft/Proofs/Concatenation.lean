import StubGraft.Proofs.Rescan

/-!
# Files put together

The scanner looks for the end of a block as far down as the file goes.  Still, what it finds in a
file without unbalanced declarations is not changed by lines added below: every closing line is
found before them, and behind the last segment the scan is where it was at the start, but for the
names that it has seen.

* `segments_append_of_sound` — the cut of a file in two pieces is that of the pieces.
* `layout_eq_flatMap` — names that were seen before make copied lines of some stubs.
* `Model.Joins` — a model is put together from those of two files.
* `scan_append` — scanning two texts, one below the other.
-/

namespace StubGraft

/-! ## Lines -/

namespace Text

theorem joinLines_append {a b : List Text} (ha : a ≠ []) (hb : b ≠ []) :
    joinLines (a ++ b) = joinLines a ++ '\n' :: joinLines b := by
  induction a with
  | nil => exact absurd rfl ha
  | cons line rest ih =>
    cases rest with
    | nil =>
      cases b with
      | nil => exact absurd rfl hb
      | cons next lines => rfl
    | cons next lines =>
      have hrest := ih (by simp)
      simp only [List.cons_append, joinLines] at hrest ⊢
      rw [hrest, List.append_assoc, List.cons_append]

/-- A line feed between two texts separates their lines. -/
theorem splitLines_append (a b : Text) :
    splitLines (a ++ '\n' :: b) = splitLines a ++ splitLines b := by
  have hjoin : joinLines (splitLines a ++ splitLines b) = a ++ '\n' :: b := by
    rw [joinLines_append (splitLines_ne_nil a) (splitLines_ne_nil b), joinLines_splitLines,
      joinLines_splitLines]
  rw [← hjoin]
  apply splitLines_joinLines
  · simp [splitLines_ne_nil]
  · intro line hline
    rcases List.mem_append.1 hline with h | h
    · exact not_mem_splitLines h
    · exact not_mem_splitLines h

end Text

/-! ## The cut at the seam -/

section Seam

variable {convention : Convention}

/-- Sound segments are cut off whatever follows them. -/
theorem segments_linesOf_append {segs : List Segment} (h : ∀ seg ∈ segs, seg.Sound convention)
    (rest : List Text) :
    segments convention (linesOf segs ++ rest) = segs ++ segments convention rest := by
  induction segs with
  | nil => rfl
  | cons seg segs ih =>
    have hseg : seg.Sound convention := h seg List.mem_cons_self
    have hsegs := ih fun s hs => h s (List.mem_cons_of_mem _ hs)
    rw [linesOf_cons, List.append_assoc, segments_append (hseg.fits _), hsegs, List.cons_append]

/-- No closing line moves when lines are added below a file without unbalanced declarations. -/
theorem segments_append_of_sound {top bottom : List Text}
    (h : ∀ seg ∈ segments convention top, seg.Sound convention) :
    segments convention (top ++ bottom) =
      segments convention top ++ segments convention bottom := by
  have hcut := segments_linesOf_append h bottom
  rwa [linesOf_segments] at hcut

end Seam

/-! ## Names seen before -/

/-- A part of a file that follows stubs of the given names. -/
def Part.unlessKnown (known : List Text) : Part → List Part
  | .copied line => [.copied line]
  | .stub header body closer =>
    if stubName header ∈ known then (header :: body ++ [closer]).map .copied
    else [.stub header body closer]

@[simp] theorem flatMap_unlessKnown_copied (known lines : List Text) :
    (lines.map Part.copied).flatMap (Part.unlessKnown known) = lines.map .copied := by
  induction lines with
  | nil => rfl
  | cons line lines ih => simpa [Part.unlessKnown] using ih

/-- The stubs of names that were seen before are copied, and all else stays as it is. -/
theorem layout_eq_flatMap {known seen all : List Text}
    (hall : ∀ name, name ∈ all ↔ name ∈ known ∨ name ∈ seen) (segs : List Segment) :
    layout all segs = (layout seen segs).flatMap (Part.unlessKnown known) := by
  induction segs generalizing seen all with
  | nil => rfl
  | cons seg segs ih =>
    cases seg with
    | plain line => exact congrArg _ (ih hall)
    | unbalanced line => exact congrArg _ (ih hall)
    | oneLine line => exact congrArg _ (ih hall)
    | block header body closer =>
      rw [layout, layout]
      by_cases hseen : stubName header ∈ seen
      · rw [if_pos ((hall _).2 (Or.inr hseen)), if_pos hseen, List.flatMap_append,
          flatMap_unlessKnown_copied, ih hall]
      · rw [if_neg hseen, List.flatMap_cons, Part.unlessKnown]
        by_cases hknown : stubName header ∈ known
        · -- the name is among all names already, so it need not be added to them
          have hsame : ∀ name, name ∈ all ↔ name ∈ known ∨ name ∈ seen ++ [stubName header] := by
            intro name
            rw [hall, List.mem_append, List.mem_singleton]
            constructor
            · rintro (h | h)
              · exact Or.inl h
              · exact Or.inr (Or.inl h)
            · rintro (h | h | rfl)
              · exact Or.inl h
              · exact Or.inr h
              · exact Or.inl hknown
          rw [if_pos ((hall _).2 (Or.inl hknown)), if_pos hknown, ih hsame]
        · have hmore : ∀ name, name ∈ all ++ [stubName header] ↔
              name ∈ known ∨ name ∈ seen ++ [stubName header] := by
            intro name
            rw [List.mem_append, List.mem_append, hall, or_assoc]
          have hnew : stubName header ∉ all := by
            rw [hall]
            exact not_or.2 ⟨hknown, hseen⟩
          rw [if_neg hnew, if_neg hknown, ih hmore, List.singleton_append]

/-- The names that have been seen are those of the stubs. -/
theorem seenAfter_eq (seen : List Text) (segs : List Segment) :
    seenAfter seen segs = seen ++ (entriesOf (layout seen segs)).map Prod.fst := by
  induction segs generalizing seen with
  | nil => simp [seenAfter, blockNames, layout, entriesOf]
  | cons seg segs ih =>
    cases seg with
    | plain line => exact ih seen
    | unbalanced line => exact ih seen
    | oneLine line => exact ih seen
    | block header body closer =>
      have hnext : seenAfter seen (.block header body closer :: segs) =
          seenAfter (Text.addNew seen (stubName header)) segs := rfl
      rw [hnext, Text.addNew, layout]
      split
      · rw [ih, entriesOf_append, entriesOf_copied, List.nil_append]
      · rw [ih, List.append_assoc]
        rfl

theorem entriesOf_flatMap_unlessKnown (known : List Text) (parts : List Part) :
    entriesOf (parts.flatMap (Part.unlessKnown known)) =
      (entriesOf parts).filter (·.1 ∉ known) := by
  induction parts with
  | nil => rfl
  | cons part parts ih =>
    rw [List.flatMap_cons, entriesOf_append, ih]
    cases part with
    | copied line => rfl
    | stub header body closer =>
      have hcons : entriesOf (.stub header body closer :: parts) =
          (stubName header, body) :: entriesOf parts := rfl
      rw [hcons, Part.unlessKnown]
      by_cases hknown : stubName header ∈ known
      · rw [if_pos hknown, entriesOf_copied, List.filter_cons_of_neg (by simpa using hknown)]
        rfl
      · rw [if_neg hknown, List.filter_cons_of_pos (by simpa using hknown)]
        rfl

theorem spansFrom_flatMap_unlessKnown (known : List Text) (position : Nat) (parts : List Part) :
    spansFrom position (parts.flatMap (Part.unlessKnown known)) =
      (spansFrom position parts).filter (·.name ∉ known) := by
  induction parts generalizing position with
  | nil => rfl
  | cons part parts ih =>
    rw [List.flatMap_cons]
    cases part with
    | copied line => exact ih (position + 1)
    | stub header body closer =>
      have hlength : position + (header :: body ++ [closer]).length =
          position + body.length + 2 := by
        simp [Nat.add_assoc]
      rw [Part.unlessKnown, spansFrom]
      by_cases hknown : stubName header ∈ known
      · rw [if_pos hknown, spansFrom_append, spansFrom_copied, partLines_copied, hlength, ih,
          List.filter_cons_of_neg (by simpa using hknown)]
        rfl
      · rw [if_neg hknown, List.singleton_append, spansFrom, ih,
          List.filter_cons_of_pos (by simpa using hknown)]

/-! ## Spans further down -/

/-- A span with the given number of lines above it. -/
def Span.below (count : Nat) (span : Span) : Span :=
  ⟨span.name, count + span.first, count + span.last⟩

theorem spansFrom_add (count position : Nat) (parts : List Part) :
    spansFrom (count + position) parts = (spansFrom position parts).map (Span.below count) := by
  induction parts generalizing position with
  | nil => rfl
  | cons part parts ih =>
    cases part with
    | copied line => exact ih (position + 1)
    | stub header body closer =>
      rw [spansFrom, spansFrom, List.map_cons, ← ih]
      simp only [Span.below, Nat.add_assoc]

/-! ## Main result -/

/-- A model is put together from those of two files, the second below the first. -/
structure Model.Joins (top bottom whole : Model) : Prop where
  /-- The lines of the second file follow those of the first. -/
  lines : whole.lines = top.lines ++ bottom.lines
  /-- So do its stubs, without those that the first file has already. -/
  entries : whole.stubs.entries =
    top.stubs.entries ++ bottom.stubs.entries.filter (·.1 ∉ top.stubs.names)
  /-- These stand as many lines further down as the first file has. -/
  spans : whole.spans = top.spans ++
    (bottom.spans.filter (·.name ∉ top.stubs.names)).map (Span.below top.lines.length)
  /-- The imports are those of both files, each where it is first. -/
  imports : whole.imports = (top.imports ++ bottom.imports).eraseDups
  /-- No stub of the first file changes. -/
  kept : ∀ name body, top.stubs.body? name = some body → whole.stubs.body? name = some body
  /-- No import of the first file is lost or goes to another place. -/
  first : top.imports <+: whole.imports

section Joined

variable {convention : Convention} {top bottom : List Text}

theorem names_scanLines (convention : Convention) (lines : List Text) :
    (scanLines convention lines).1.stubs.names = seenAfter [] (segments convention lines) := by
  rw [seenAfter_eq, StubTable.names, scanLines_entries, List.nil_append]
  rfl

/-- The parts of the lower lines, when the upper ones have stubs. -/
theorem layoutOf_append (h : ∀ seg ∈ segments convention top, seg.Sound convention) :
    layoutOf convention (top ++ bottom) = layoutOf convention top ++
      (layoutOf convention bottom).flatMap
        (Part.unlessKnown (scanLines convention top).1.stubs.names) := by
  rw [layoutOf, segments_append_of_sound h, layout_append, ← names_scanLines]
  apply congrArg (layoutOf convention top ++ ·)
  apply layout_eq_flatMap
  simp

theorem imports_append (h : ∀ seg ∈ segments convention top, seg.Sound convention) :
    (scanLines convention (top ++ bottom)).1.imports =
      Text.distinct ((scanLines convention top).1.imports ++
        (scanLines convention bottom).1.imports) := by
  have hdistinct : ∀ a b : List Text,
      Text.distinct (a ++ b) = Text.distinct (Text.distinct a ++ Text.distinct b) := by
    intro a b
    rw [Text.distinct_append, Text.distinct_append,
      Text.distinct_of_nodup (Text.nodup_distinct a),
      Text.distinct_of_nodup (Text.nodup_distinct b)]
    simp only [Text.mem_distinct]
  rw [scanLines_imports, scanLines_imports, scanLines_imports, segments_append_of_sound h,
    singles_append, List.filter_append]
  exact hdistinct _ _

theorem scanLines_joins (h : ∀ seg ∈ segments convention top, seg.Sound convention) :
    (scanLines convention top).1.Joins (scanLines convention bottom).1
      (scanLines convention (top ++ bottom)).1 := by
  have hentries : (scanLines convention (top ++ bottom)).1.stubs.entries =
      (scanLines convention top).1.stubs.entries ++
        (scanLines convention bottom).1.stubs.entries.filter
          (·.1 ∉ (scanLines convention top).1.stubs.names) := by
    rw [scanLines_entries, layoutOf_append h, entriesOf_append, entriesOf_flatMap_unlessKnown,
      ← scanLines_entries, ← scanLines_entries]
  have himports := @imports_append convention top bottom h
  refine ⟨rfl, hentries, ?_, ?_, ?_, ?_⟩
  · rw [scanLines_spans, layoutOf_append h, spansFrom_append, spansFrom_flatMap_unlessKnown,
      partLines_layoutOf, Nat.add_comm, spansFrom_add, ← scanLines_spans, ← scanLines_spans,
      List.filter_map]
    rfl
  · rw [himports, Text.distinct_eq_eraseDups]
  · intro name body hbody
    rw [StubTable.body?_eq_some_iff] at hbody ⊢
    rw [hentries]
    exact List.mem_append_left _ hbody
  · have hnodup : (scanLines convention top).1.imports.Nodup := by
      rw [scanLines_imports]
      exact Text.nodup_distinct _
    rw [himports, Text.distinct_append, Text.distinct_of_nodup hnodup]
    exact List.prefix_append _ _

end Joined

/-- A text without unbalanced declarations and any text below it are scanned as each of them is
alone: the stubs, spans and imports of the first come first and are what they were, and then come
those of the second that are new, with their lines counted from the top of the first. -/
theorem scan_append (convention : Convention) (top bottom : Text)
    (hbalanced : NoUnbalanced (scan convention top).2) :
    (scan convention top).1.Joins (scan convention bottom).1
      (scan convention (top ++ '\n' :: bottom)).1 := by
  have hsound : ∀ seg ∈ segments convention top.splitLines, seg.Sound convention :=
    fun seg hseg => sound_of_noUnbalanced hbalanced hseg
  have hjoins := @scanLines_joins convention top.splitLines bottom.splitLines hsound
  rw [← Text.splitLines_append] at hjoins
  exact hjoins

/-- The second text declares a stub of the first again and leaves one of its own open. -/
theorem scan_append_letters :
    let top := Text.lit "r1\nf=\n\x7b\n1\n\x7d\nr2"
    let bottom := Text.lit "r2\ng=\x7b\n2\n\x7d\nf=\x7b\n3\n\x7d\nr3\ng\x7b"
    let whole := (scan letters (top ++ '\n' :: bottom)).1
    NoUnbalanced (scan letters top).2 ∧ ¬ NoUnbalanced (scan letters bottom).2 ∧
    whole.stubs.names = [Text.lit "f", Text.lit "g"] ∧
    whole.spans = [⟨Text.lit "f", 1, 4⟩, ⟨Text.lit "g", 7, 9⟩] ∧
    whole.imports = [Text.lit "r1", Text.lit "r2", Text.lit "r3"] := by
  intro top bottom whole
  have hbalanced : NoUnbalanced (scan letters top).2 := by decide
  have hjoins := scan_append letters top bottom hbalanced
  refine ⟨hbalanced, by decide, ?_, ?_, ?_⟩
  · rw [StubTable.names, hjoins.entries]
    decide
  · rw [hjoins.spans]
    decide
  · rw [hjoins.imports, ← Text.distinct_eq_eraseDups]
    decide

end StubGraft
