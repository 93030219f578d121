import StubGraft.Proofs.Braces
import StubGraft.Visitor.Scan

/-!
# The cut of a file into segments

The scanner cuts off one segment after the other.  Here the cut is described without the scanner:
each segment fits what follows it.  A file has exactly one such cut (`segments_eq_iff`), and a cut
without unbalanced declarations does not look at what follows, so its segments can be put together
in any way (`segments_linesOf_of_sound`).
-/

namespace StubGraft

/-! ## Segments that fit -/

/-- A segment is what the scanner cuts off in front of the given lines. -/
def Segment.Fits (convention : Convention) (rest : List Text) : Segment → Prop
  | .plain line => convention.declares line = false
  | .unbalanced line =>
    convention.declares line = true ∧ Braces.closingOffset? (line :: rest) = none
  | .oneLine line => convention.declares line = true ∧ Braces.Closed [line]
  | .block header body closer =>
    convention.declares header = true ∧ Braces.Delimited header body closer

/-- The lines of some segments. -/
def linesOf (segs : List Segment) : List Text := segs.flatMap Segment.lines

@[simp] theorem linesOf_nil : linesOf [] = [] := rfl

@[simp] theorem linesOf_cons (seg : Segment) (segs : List Segment) :
    linesOf (seg :: segs) = seg.lines ++ linesOf segs := rfl

@[simp] theorem linesOf_append (a b : List Segment) :
    linesOf (a ++ b) = linesOf a ++ linesOf b := by
  simp [linesOf]

theorem Segment.lines_ne_nil (seg : Segment) : seg.lines ≠ [] := by
  cases seg <;> simp [Segment.lines]

theorem mem_linesOf {line : Text} {segs : List Segment} :
    line ∈ linesOf segs ↔ ∃ seg ∈ segs, line ∈ seg.lines := by
  simp [linesOf]

/-- Every segment fits what follows it. -/
def Cut (convention : Convention) : List Segment → Prop
  | [] => True
  | seg :: segs => seg.Fits convention (linesOf segs) ∧ Cut convention segs

/-! ## One segment at a time -/

theorem segmentsFrom_eq_drop (convention : Convention) (skip : Nat) (lines : List Text) :
    segmentsFrom convention skip lines = segments convention (lines.drop skip) := by
  induction lines generalizing skip with
  | nil => simp [segmentsFrom, segments]
  | cons line lines ih =>
    cases skip with
    | zero => rfl
    | succ k => rw [segmentsFrom, ih, List.drop_succ_cons]

theorem closingOffset?_cons_eq_zero_iff {line : Text} {rest : List Text} :
    Braces.closingOffset? (line :: rest) = some 0 ↔ Braces.Closed [line] := by
  rw [Braces.closingOffset?_eq_some_iff]
  simp

/-- The scanner cuts off a segment that fits. -/
theorem segments_append {convention : Convention} {seg : Segment} {rest : List Text}
    (h : seg.Fits convention rest) :
    segments convention (seg.lines ++ rest) = seg :: segments convention rest := by
  cases seg with
  | plain line =>
    have hd : convention.declares line = false := h
    simp [Segment.lines, segments, segmentsFrom, hd]
  | unbalanced line =>
    obtain ⟨hd, hnone⟩ := h
    simp [Segment.lines, segments, segmentsFrom, hd, hnone]
  | oneLine line =>
    obtain ⟨hd, hclosed⟩ := h
    have hzero : Braces.closingOffset? (line :: rest) = some 0 :=
      closingOffset?_cons_eq_zero_iff.2 hclosed
    simp [Segment.lines, segments, segmentsFrom, hd, hzero]
  | block header body closer =>
    obtain ⟨hd, hdelim⟩ := h
    have hsome := hdelim.closingOffset? rest
    have hlines : (Segment.block header body closer).lines ++ rest =
        header :: (body ++ closer :: rest) := by
      simp [Segment.lines]
    rw [hlines, segments, segmentsFrom, if_pos hd]
    rw [List.cons_append] at hsome
    simp only [hsome, segmentsFrom_eq_drop]
    simp

/-- In front of any lines a segment that fits can be cut off. -/
theorem exists_fits (convention : Convention) (line : Text) (lines : List Text) :
    ∃ (seg : Segment) (rest : List Text), line :: lines = seg.lines ++ rest ∧
      seg.Fits convention rest := by
  by_cases hd : convention.declares line = true
  · cases hk : Braces.closingOffset? (line :: lines) with
    | none => exact ⟨.unbalanced line, lines, rfl, hd, hk⟩
    | some k =>
      cases k with
      | zero => exact ⟨.oneLine line, lines, rfl, hd, closingOffset?_cons_eq_zero_iff.1 hk⟩
      | succ k =>
        have hlt : k < lines.length := by
          have := (Braces.closingOffset?_eq_some_iff.1 hk).1
          simpa using this
        have hsplit : line :: lines =
            (line :: lines.take k ++ [lines[k]]) ++ lines.drop (k + 1) := by
          simp
        refine ⟨.block line (lines.take k) lines[k], lines.drop (k + 1), hsplit, hd, ?_⟩
        rw [hsplit, Braces.closingOffset?_append (by simp; omega)] at hk
        rw [Braces.delimited_iff, hk, List.length_take, Nat.min_eq_left (Nat.le_of_lt hlt)]
  · exact ⟨.plain line, lines, rfl, by simpa [Segment.Fits] using hd⟩

/-! ## The whole cut -/

/-- A cut is found again from its lines. -/
theorem segments_linesOf {convention : Convention} {segs : List Segment}
    (h : Cut convention segs) : segments convention (linesOf segs) = segs := by
  induction segs with
  | nil => rfl
  | cons seg segs ih => rw [linesOf_cons, segments_append h.1, ih h.2]

/-- The scanner cuts without losing a line, and every segment fits. -/
theorem cut_segments (convention : Convention) (lines : List Text) :
    Cut convention (segments convention lines) ∧ linesOf (segments convention lines) = lines := by
  -- on the number of lines, since a block takes several of them
  induction hn : lines.length using Nat.strong_induction_on generalizing lines with
  | _ n ih =>
    cases lines with
    | nil => exact ⟨trivial, rfl⟩
    | cons line lines =>
      obtain ⟨seg, rest, hsplit, hfits⟩ := exists_fits convention line lines
      have hlt : rest.length < n := by
        have hpos := List.length_pos_iff.2 seg.lines_ne_nil
        rw [← hn, hsplit, List.length_append]
        omega
      obtain ⟨hcut, hrest⟩ := ih rest.length hlt rest rfl
      rw [hsplit, segments_append hfits]
      exact ⟨⟨by rw [hrest]; exact hfits, hcut⟩, by rw [linesOf_cons, hrest]⟩

theorem linesOf_segments (convention : Convention) (lines : List Text) :
    linesOf (segments convention lines) = lines :=
  (cut_segments convention lines).2

/-- A file has exactly one cut whose segments all fit. -/
theorem segments_eq_iff {convention : Convention} {lines : List Text} {segs : List Segment} :
    segments convention lines = segs ↔ Cut convention segs ∧ linesOf segs = lines := by
  constructor
  · rintro rfl
    exact cut_segments convention lines
  · rintro ⟨hcut, rfl⟩
    exact segments_linesOf hcut

/-! ## Segments that fit anywhere -/

/-- A segment that fits in front of any lines. -/
def Segment.Sound (convention : Convention) : Segment → Prop
  | .plain line => convention.declares line = false
  | .unbalanced _ => False
  | .oneLine line => convention.declares line = true ∧ Braces.Closed [line]
  | .block header body closer =>
    convention.declares header = true ∧ Braces.Delimited header body closer

theorem Segment.Sound.fits {convention : Convention} {seg : Segment}
    (h : seg.Sound convention) (rest : List Text) : seg.Fits convention rest := by
  cases seg with
  | unbalanced line => exact h.elim
  | plain line => exact h
  | oneLine line => exact h
  | block header body closer => exact h

/-- Sound segments are found again in whatever order they are put together. -/
theorem segments_linesOf_of_sound {convention : Convention} {segs : List Segment}
    (h : ∀ seg ∈ segs, seg.Sound convention) : segments convention (linesOf segs) = segs := by
  refine segments_linesOf ?_
  induction segs with
  | nil => trivial
  | cons seg segs ih =>
    exact ⟨(h seg (by simp)).fits _, ih fun s hs => h s (List.mem_cons_of_mem _ hs)⟩

/-- In a cut all segments but the unbalanced declarations are sound. -/
theorem Cut.sound {convention : Convention} {segs : List Segment} (h : Cut convention segs)
    {seg : Segment} (hseg : seg ∈ segs) (hb : ∀ line, seg ≠ .unbalanced line) :
    seg.Sound convention := by
  induction segs with
  | nil => simp at hseg
  | cons first segs ih =>
    rcases List.mem_cons.1 hseg with rfl | hmem
    · cases seg with
      | unbalanced line => exact absurd rfl (hb line)
      | plain line => exact h.1
      | oneLine line => exact h.1
      | block header body closer => exact h.1
    · exact ih h.2 hmem

end StubGraft
