import StubGraft.Proofs.Representation

/-!
# Declarations outside of blocks

A declaration counts only where it stands outside of the blocks above it.  This is said here of the
lines alone, by a recursion along the file, and then shown to be where the scanner cuts.

* `StandsOutside` — a line outside of the blocks above it.
* `standsOutside_iff` — these are the lines where a segment starts.
* `Event.WarnsOf` — the warnings about a declaration.
* `recorded_or_warned` — a declaration outside of blocks is recorded, or there is a warning.
-/

namespace StubGraft

/-! ## Where segments start -/

/-- A line stands outside of the blocks above it: no declaration above it, outside of blocks itself,
is closed below its own line and as far down as this one. -/
def StandsOutside (convention : Convention) (lines : List Text) (index : Nat) : Prop :=
  ∀ j, j < index → StandsOutside convention lines j →
    ∀ header, lines[j]? = some header → convention.declares header = true →
      ∀ last, Braces.closing? lines j = some last → j < last → last < index
termination_by index

/-- A segment of a cut starts at an index. -/
def Segment.StartsAt (segs : List Segment) (index : Nat) (seg : Segment) : Prop :=
  ∃ before after, segs = before ++ seg :: after ∧ (linesOf before).length = index

section Starts

variable {segs : List Segment} {seg seg' : Segment} {i j : Nat}

/-- Every line belongs to a segment. -/
theorem exists_startsAt_le (h : i < (linesOf segs).length) :
    ∃ (start : Nat) (seg : Segment), seg.StartsAt segs start ∧ start ≤ i ∧
      i < start + seg.lines.length := by
  induction segs generalizing i with
  | nil => simp at h
  | cons first segs ih =>
    by_cases hfirst : i < first.lines.length
    · exact ⟨0, first, ⟨[], segs, rfl, rfl⟩, by omega, by omega⟩
    · have hrest : i - first.lines.length < (linesOf segs).length := by
        rw [linesOf_cons, List.length_append] at h
        omega
      obtain ⟨start, seg, ⟨before, after, rfl, rfl⟩, hle, hlt⟩ := ih hrest
      refine ⟨first.lines.length + (linesOf before).length, seg,
        ⟨first :: before, after, rfl, by simp⟩, by omega, by omega⟩

/-- A segment ends before the next one starts. -/
theorem Segment.StartsAt.add_length_le (h : seg.StartsAt segs i) (h' : seg'.StartsAt segs j)
    (hlt : i < j) : i + seg.lines.length ≤ j := by
  obtain ⟨before, after, rfl, rfl⟩ := h
  obtain ⟨before', after', hsplit, rfl⟩ := h'
  rcases List.append_eq_append_iff.1 hsplit with ⟨middle, rfl, hrest⟩ | ⟨middle, rfl, -⟩
  · cases middle with
    | nil => simp at hlt
    | cons first middle =>
      obtain rfl : seg = first := (List.cons.inj hrest).1
      simp only [linesOf_append, linesOf_cons, List.length_append]
      omega
  · simp only [linesOf_append, List.length_append] at hlt
    omega

variable {convention : Convention} {lines : List Text}

/-- What stands in a file from the start of a segment on. -/
theorem Segment.StartsAt.drop (h : seg.StartsAt (segments convention lines) i) :
    ∃ rest, lines.drop i = seg.lines ++ rest ∧ seg.Fits convention rest := by
  obtain ⟨hcut, hlines⟩ := cut_segments convention lines
  obtain ⟨before, after, hsplit, rfl⟩ := h
  rw [hsplit] at hcut hlines
  refine ⟨linesOf after, ?_, ?_⟩
  · rw [← hlines, linesOf_append, List.drop_left, linesOf_cons]
  · clear hlines hsplit
    induction before with
    | nil => exact hcut.1
    | cons first before ih => exact ih hcut.2

/-- The line at the start of a segment is its first one. -/
theorem Segment.StartsAt.head? (h : seg.StartsAt (segments convention lines) i) :
    seg.lines.head? = lines[i]? := by
  obtain ⟨rest, hdrop, -⟩ := h.drop
  rw [← List.head?_drop, hdrop, List.head?_append_of_ne_nil _ seg.lines_ne_nil]

/-- A declaration that starts a segment is closed where the segment says. -/
theorem Segment.StartsAt.closing? (h : seg.StartsAt (segments convention lines) i) {header : Text}
    (hline : lines[i]? = some header) (hdeclares : convention.declares header = true) :
    match seg with
    | .plain _ => False
    | .unbalanced line => line = header ∧ Braces.closing? lines i = none
    | .oneLine line => line = header ∧ Braces.closing? lines i = some i
    | .block line body _ =>
      line = header ∧ Braces.closing? lines i = some (i + body.length + 1) := by
  obtain ⟨rest, hdrop, hfits⟩ := h.drop
  have hfirst := h.head?.trans hline
  cases seg with
  | plain line =>
    obtain rfl : line = header := Option.some.inj hfirst
    exact absurd hdeclares (by simpa [Segment.Fits] using hfits)
  | unbalanced line =>
    refine ⟨Option.some.inj hfirst, ?_⟩
    rw [Braces.closing?, hdrop, Segment.lines, List.singleton_append, hfits.2]
    rfl
  | oneLine line =>
    refine ⟨Option.some.inj hfirst, ?_⟩
    rw [Braces.closing?, hdrop, Segment.lines, List.singleton_append,
      closingOffset?_cons_eq_zero_iff.2 hfits.2]
    rfl
  | block line body closer =>
    refine ⟨Option.some.inj hfirst, ?_⟩
    have hlines : (Segment.block line body closer).lines ++ rest =
        line :: body ++ closer :: rest := by simp [Segment.lines]
    rw [Braces.closing?, hdrop, hlines, hfits.2.closingOffset? rest]
    rfl

/-- The lines outside of blocks are those where a segment starts. -/
theorem standsOutside_iff (hi : i < lines.length) :
    StandsOutside convention lines i ↔
      ∃ seg : Segment, seg.StartsAt (segments convention lines) i := by
  -- on the index: what is said of a line refers to the lines above it
  induction i using Nat.strong_induction_on with
  | _ i ih =>
    constructor
    · intro hout
      have hlength : i < (linesOf (segments convention lines)).length := by
        rwa [linesOf_segments]
      obtain ⟨start, seg, hstart, hle, hlt⟩ := exists_startsAt_le hlength
      rcases Nat.lt_or_eq_of_le hle with hbefore | rfl
      · -- a segment that goes on below its first line is a block, and reaches over the line
        exfalso
        obtain ⟨rest, -, hfits⟩ := hstart.drop
        cases seg with
        | plain line => simp only [Segment.lines, List.length_singleton] at hlt; omega
        | unbalanced line => simp only [Segment.lines, List.length_singleton] at hlt; omega
        | oneLine line => simp only [Segment.lines, List.length_singleton] at hlt; omega
        | block header body closer =>
          have hline : lines[start]? = some header := hstart.head?.symm
          have hclosing := (hstart.closing? hline hfits.1).2
          have habove := (ih start hbefore (by omega)).2 ⟨_, hstart⟩
          rw [StandsOutside] at hout
          have := hout start hbefore habove header hline hfits.1 _ hclosing (by omega)
          simp only [Segment.lines, List.cons_append, List.length_cons, List.length_append,
            List.length_nil] at hlt
          omega
      · exact ⟨seg, hstart⟩
    · rintro ⟨seg, hstart⟩
      rw [StandsOutside]
      intro j hj habove header hline hdeclares last hclosing hlast
      obtain ⟨seg', hstart'⟩ := (ih j hj (by omega)).1 habove
      have hbefore := hstart'.add_length_le hstart hj
      have hwhere := hstart'.closing? hline hdeclares
      rw [hclosing] at hwhere
      cases seg' with
      | plain line => exact hwhere.elim
      | unbalanced line => exact absurd hwhere.2 (by simp)
      | oneLine line =>
        have := Option.some.inj hwhere.2
        omega
      | block line body closer =>
        have := Option.some.inj hwhere.2
        simp only [Segment.lines, List.cons_append, List.length_cons, List.length_append,
          List.length_nil] at hbefore
        omega

end Starts

/-! ## What becomes of a declaration -/

/-- A warning about a declaration of a name at a line: it names the stub or gives the line. -/
inductive Event.WarnsOf (name : Text) (line : Nat) : Event → Prop
  /-- Its braces never balance. -/
  | unbalanced : WarnsOf name line (.unbalancedStub line)
  /-- It is closed on its own line. -/
  | oneLine : WarnsOf name line (.oneLineStub name line)
  /-- Its name is declared above. -/
  | duplicate : WarnsOf name line (.duplicateStub name line)
  /-- It is no longer generated. -/
  | dropped : WarnsOf name line (.droppedStub name)

theorem Event.WarnsOf.level {name : Text} {line : Nat} {event : Event}
    (h : event.WarnsOf name line) : event.level = .warning := by
  cases h <;> rfl

theorem warnings_append (seen : List Text) (position : Nat) (a b : List Segment) :
    warnings seen position (a ++ b) = warnings seen position a ++
      warnings (seenAfter seen a) (position + (linesOf a).length) b := by
  induction a generalizing seen position with
  | nil => simp [warnings, seenAfter, blockNames]
  | cons seg segs ih =>
    cases seg with
    | plain line =>
      rw [List.cons_append, warnings, ih, warnings, linesOf_cons, List.length_append,
        ← Nat.add_assoc]
      rfl
    | unbalanced line =>
      rw [List.cons_append, warnings, ih, warnings, linesOf_cons, List.length_append,
        ← Nat.add_assoc]
      rfl
    | oneLine line =>
      rw [List.cons_append, warnings, ih, warnings, linesOf_cons, List.length_append,
        ← Nat.add_assoc]
      rfl
    | block header body closer =>
      have hseen : seenAfter seen (.block header body closer :: segs) =
          seenAfter (Text.addNew seen (stubName header)) segs := rfl
      have hnext : position + (linesOf (.block header body closer :: segs)).length =
          position + body.length + 2 + (linesOf segs).length := by
        simp only [linesOf_cons, Segment.lines, List.cons_append, List.length_cons,
          List.length_append, List.length_nil]
        omega
      rw [hseen, hnext, List.cons_append, warnings, warnings, Text.addNew]
      split
      · rw [ih, List.cons_append]
      · rw [ih]

section Scanned

variable {convention : Convention} {lines : List Text} {index : Nat} {header : Text}

theorem mem_events_of_mem_warnings {event : Event}
    (h : event ∈ warnings [] 0 (segments convention lines)) :
    event ∈ (scanLines convention lines).2 := by
  rw [scanLines_events]
  exact List.mem_append_left _ h

/-- A declaration outside of blocks is recorded with all that stands before its closing line, or
there is a warning about it. -/
theorem recorded_or_warned (hline : lines[index]? = some header)
    (hdeclares : convention.declares header = true) (hout : StandsOutside convention lines index) :
    (∃ last, Braces.closing? lines index = some last ∧ index < last ∧
      (scanLines convention lines).1.stubs.body? (stubName header) =
        some (lines.extract (index + 1) last)) ∨
    ∃ event ∈ (scanLines convention lines).2, event.WarnsOf (stubName header) (index + 1) := by
  have hindex : index < lines.length := (List.getElem?_eq_some_iff.1 hline).1
  obtain ⟨seg, hstart⟩ := (standsOutside_iff hindex).1 hout
  have hclosing := hstart.closing? hline hdeclares
  obtain ⟨before, after, hsplit, rfl⟩ := hstart
  have hwarnings := warnings_append [] 0 before (seg :: after)
  rw [← hsplit, Nat.zero_add] at hwarnings
  cases seg with
  | plain line => exact hclosing.elim
  | unbalanced line =>
    refine Or.inr ⟨_, mem_events_of_mem_warnings ?_, .unbalanced⟩
    rw [hwarnings, warnings]
    simp
  | oneLine line =>
    obtain ⟨rfl, -⟩ := hclosing
    refine Or.inr ⟨_, mem_events_of_mem_warnings ?_, .oneLine⟩
    rw [hwarnings, warnings]
    simp
  | block line body closer =>
    obtain ⟨rfl, hlast⟩ := hclosing
    by_cases hseen : stubName line ∈ seenAfter [] before
    · refine Or.inr ⟨_, mem_events_of_mem_warnings ?_, .duplicate⟩
      rw [hwarnings, warnings, if_pos hseen]
      simp
    · have hstub : .stub line body closer ∈ layoutOf convention lines := by
        rw [layoutOf, hsplit, layout_append, layout, if_neg hseen]
        simp
      have hbody := (scanLines_hasParts convention lines).body? hstub
      refine Or.inl ⟨_, hlast, by omega, ?_⟩
      have hlines : lines = linesOf before ++ (line :: body ++ closer :: linesOf after) := by
        rw [← linesOf_segments convention lines, hsplit]
        simp [Segment.lines]
      have hextract : lines.extract ((linesOf before).length + 1)
          ((linesOf before).length + body.length + 1) = body := by
        rw [hlines, Nat.add_assoc, extract_append_add]
        simp [List.extract_eq_take_drop]
      rw [hbody, hextract]

end Scanned

end StubGraft
