import StubGraft.Proofs.Rescan
import StubGraft.Run.Writer
import Mathlib.Algebra.Order.BigOperators.Group.List
import Mathlib.Algebra.Order.Group.Int
import Mathlib.Algebra.Ring.Int.Defs
import Mathlib.Data.List.Nodup

/-!
# What the balance check sees of a merge

Before a merged file is written its braces are counted, all of them together.  Whether a body keeps
its boundaries is a matter of the lines around that body.  This file says what the one tells of the
other.

* `edgeShifts` — by how much the lines around each kept body differ from those it had.
* `imbalances`, `net_mergedLines` — the count is the sum of these and of the rest of the file.
* `checkBalanced_mergeTexts` — so where nothing can cancel out, a file that passes the check has its
  bodies where they belong.
* `AcceptsMisplaced` — files that pass the check because something cancels out.
-/

namespace StubGraft

/-! ## Counting the braces of a text -/

namespace Braces

theorem net_append (a b : Text) : net (a ++ b) = net a + net b := by
  simp only [net, opens, closes, List.count_append]
  omega

/-- A text has the net braces of its lines. -/
theorem net_joinLines (lines : List Text) : net (Text.joinLines lines) = totalNet lines := by
  fun_induction Text.joinLines lines with
  | case1 => rfl
  | case2 line => simp
  | case3 line next lines ih =>
    have hfeed : ∀ t : Text, net ('\n' :: t) = net t := by
      intro t
      simp [net, opens, closes]
    rw [net_append, hfeed, ih, totalNet_cons line]

theorem totalNet_splitLines (t : Text) : totalNet t.splitLines = net t := by
  rw [← net_joinLines, Text.joinLines_splitLines]

theorem balanced_iff {t : Text} : balanced t = true ↔ net t = 0 := by
  rw [balanced, beq_iff_eq, net]
  omega

/-- The lines of a stub close as many braces as they open. -/
theorem Delimited.totalNet_eq {header closer : Text} {body : List Text}
    (h : Delimited header body closer) : net header + totalNet body + net closer = 0 := by
  have := h.closed.2
  simp only [totalNet_append, totalNet_cons, totalNet_nil] at this
  omega

end Braces

theorem checkBalanced_eq_ok_iff {content : Text} :
    checkBalanced content = .ok () ↔ Braces.net content = 0 := by
  rw [← Braces.balanced_iff, checkBalanced]
  split
  · simp [‹Braces.balanced content = true›]
  · simp [‹¬Braces.balanced content = true›]

instance (content : Text) : Decidable (checkBalanced content = .ok ()) :=
  decidable_of_iff _ checkBalanced_eq_ok_iff.symm

/-! ## Lines around a body -/

/-- By how much net braces differ from those that a model has on the declaring and on the closing
line of a stub, if it records that stub. -/
def Model.shiftsOf (old : Model) (name : Text) (edges : Int × Int) : List Int :=
  match old.spans.find? fun span => span.name = name with
  | none => []
  | some span => [edges.1 - (old.edgeNets span).1, edges.2 - (old.edgeNets span).2]

/-- By how much the declaring and the closing lines of the stubs of two models differ in their net
braces. -/
def edgeShifts (old new : Model) : List Int :=
  new.spans.flatMap fun span => old.shiftsOf span.name (new.edgeNets span)

/-- By how much the lines of a stub differ from those that a model has. -/
def Part.shifts (old : Model) : Part → List Int
  | .copied _ => []
  | .stub header _ closer => old.shiftsOf (stubName header) (Braces.net header, Braces.net closer)

section Shifts

variable {old new : Model}

theorem Model.HasParts.flatMap_shifts {before after : List Part}
    (h : new.HasParts (before ++ after)) :
    (spansFrom (partLines before).length after).flatMap
        (fun span => old.shiftsOf span.name (new.edgeNets span)) =
      after.flatMap (Part.shifts old) := by
  induction after generalizing before with
  | nil => rfl
  | cons part parts ih =>
    have hnext : new.HasParts ((before ++ [part]) ++ parts) := by simpa using h
    have hlen : (partLines (before ++ [part])).length =
        (partLines before).length + part.lines.length := by simp
    have hrest := ih hnext
    rw [hlen] at hrest
    cases part with
    | copied line => exact hrest
    | stub header body closer =>
      have hend : (partLines before).length + (Part.stub header body closer).lines.length =
          (partLines before).length + body.length + 2 := by
        simp [Part.lines]
        omega
      rw [hend] at hrest
      rw [spansFrom, List.flatMap_cons, hrest, h.edgeNets]
      rfl

/-- The shifts of two models are those of the stubs of the new one. -/
theorem Model.HasParts.edgeShifts_eq {parts : List Part} (h : new.HasParts parts) (old : Model) :
    edgeShifts old new = parts.flatMap (Part.shifts old) := by
  rw [edgeShifts, h.spans]
  exact @flatMap_shifts old new [] parts h

theorem map_name_spansFrom (position : Nat) (parts : List Part) :
    (spansFrom position parts).map Span.name = (entriesOf parts).map Prod.fst := by
  induction parts generalizing position with
  | nil => rfl
  | cons part parts ih =>
    cases part with
    | copied line => exact ih _
    | stub header body closer => exact congrArg (stubName header :: ·) (ih _)

/-- The spans have the names of the stubs, in order. -/
theorem Model.HasParts.map_name {parts : List Part} (h : old.HasParts parts) :
    old.spans.map Span.name = old.stubs.names := by
  rw [h.spans, map_name_spansFrom, ← h.entries]
  rfl

/-- A span is found by its name. -/
theorem Model.HasParts.find?_name {parts : List Part} {span : Span} (h : old.HasParts parts)
    (hspan : span ∈ old.spans) :
    old.spans.find? (fun s => s.name = span.name) = some span := by
  have hnodup : (old.spans.map Span.name).Nodup := by
    rw [h.map_name]
    exact old.stubs.nodup
  cases hfind : old.spans.find? fun s => s.name = span.name with
  | none =>
    have := List.find?_eq_none.1 hfind span hspan
    simp at this
  | some found =>
    have hname : found.name = span.name := by simpa using List.find?_some hfind
    have hmem := List.mem_of_find?_eq_some hfind
    exact congrArg some (List.inj_on_of_nodup_map hnodup hmem hspan hname)

/-- No span is found by a name that is not recorded. -/
theorem Model.HasParts.find?_eq_none_iff {parts : List Part} {name : Text}
    (h : old.HasParts parts) :
    old.spans.find? (fun s => s.name = name) = none ↔ name ∉ old.stubs.names := by
  rw [List.find?_eq_none, ← h.map_name]
  simp

/-- Without shifts the two models agree on the lines around their stubs. -/
theorem agreeOnEdges_of_edgeShifts {parts : List Part} (h : old.HasParts parts)
    (hzero : ∀ shift ∈ edgeShifts old new, shift = 0) : AgreeOnEdges old new := by
  intro s hs t ht hname
  have hmem : ∀ shift ∈ old.shiftsOf t.name (new.edgeNets t), shift = 0 := by
    intro shift hshift
    exact hzero shift (List.mem_flatMap.2 ⟨t, ht, hshift⟩)
  rw [← hname, Model.shiftsOf, h.find?_name hs] at hmem
  have hfirst := hmem ((new.edgeNets t).1 - (old.edgeNets s).1) (by simp)
  have hlast := hmem ((new.edgeNets t).2 - (old.edgeNets s).2) (by simp)
  exact Prod.ext (by omega) (by omega)

end Shifts

/-! ## The braces of a merged file -/

section Merged

variable {convention : Convention} {old new : Text}

/-- The lines of a recorded stub delimit its body. -/
theorem delimited_of_stub_mem {lines : List Text} {header closer : Text} {body : List Text}
    (h : .stub header body closer ∈ layoutOf convention lines) :
    Braces.Delimited header body closer := by
  have hsound := (cut_segments convention lines).1.sound (block_mem_of_stub_mem h) (by simp)
  exact hsound.2

/-- A stub with its merged body has as many net braces more as the lines around that body have. -/
theorem totalNet_withBodies {part : Part} (h : part ∈ layoutOf convention new.splitLines) :
    Braces.totalNet (part.withBodies
        (mergeStubs (scan convention old).1 (scan convention new).1)).lines =
      Braces.totalNet part.lines + (part.shifts (scan convention old).1).sum := by
  cases part with
  | copied line => simp [Part.withBodies, Part.shifts]
  | stub header body closer =>
    have hold := scanLines_hasParts convention old.splitLines
    have hown := (delimited_of_stub_mem h).totalNet_eq
    rw [withBodies_mergeStubs _ h]
    cases hbody : (scan convention old).1.stubs.body? (stubName header) with
    | none =>
      -- a stub that the edited file does not have keeps its own body
      have hfind : (scan convention old).1.spans.find? (fun s => s.name = stubName header) =
          none := by
        refine hold.find?_eq_none_iff.2 fun hname => ?_
        have := ((scan convention old).1.stubs.mem_names_iff (stubName header)).1 hname
        simp [hbody] at this
      simp [Part.shifts, Model.shiftsOf, hfind]
    | some kept =>
      obtain ⟨header', closer', hstub, hname⟩ := exists_stub_of_body? hbody
      have hkept := (delimited_of_stub_mem hstub).totalNet_eq
      obtain ⟨span, hspan, hspanName, hedges⟩ := hold.exists_span hstub
      have hfind := hold.find?_name hspan
      rw [hspanName, hname] at hfind
      have hshifts : (Part.stub header body closer).shifts (scan convention old).1 =
          [Braces.net header - Braces.net header', Braces.net closer - Braces.net closer'] := by
        have hfind : (scan convention old).1.spans.find? (fun s => s.name = stubName header) =
            some span := hfind
        have hedges : (scan convention old).1.edgeNets span =
            (Braces.net header', Braces.net closer') := hedges
        simp [Part.shifts, Model.shiftsOf, hfind, hedges]
      rw [hshifts]
      simp only [Part.lines, Option.getD_some, Braces.totalNet_append, Braces.totalNet_cons,
        Braces.totalNet_nil, List.sum_cons, List.sum_nil]
      omega

/-- Where the net braces of a merged file come from: the new file with the pending imports, and the
lines around the bodies that both files have. -/
def imbalances (convention : Convention) (old new : Text) : List Int :=
  (Braces.net new + Braces.totalNet (pendingImports (scan convention new).1
    (merge (scan convention old).1 (scan convention new).1).1)) ::
  edgeShifts (scan convention old).1 (scan convention new).1

theorem totalNet_map_withBodies {parts : List Part}
    (h : ∀ part ∈ parts, part ∈ layoutOf convention new.splitLines) :
    Braces.totalNet (partLines (parts.map (Part.withBodies
        (mergeStubs (scan convention old).1 (scan convention new).1)))) =
      Braces.totalNet (partLines parts) +
        (parts.flatMap (Part.shifts (scan convention old).1)).sum := by
  induction parts with
  | nil => simp
  | cons part parts ih =>
    have hfirst := @totalNet_withBodies convention old new part (h part List.mem_cons_self)
    have hrest := ih fun p hp => h p (List.mem_cons_of_mem _ hp)
    simp only [List.map_cons, partLines_cons, Braces.totalNet_append, List.flatMap_cons,
      List.sum_append, hfirst, hrest]
    omega

/-- The net braces of a merged file. -/
theorem net_mergedLines :
    Braces.totalNet (mergedLines convention old new) = (imbalances convention old new).sum := by
  have hparts := scanLines_hasParts convention new.splitLines
  have hshifts : edgeShifts (scan convention old).1 (scan convention new).1 = _ :=
    hparts.edgeShifts_eq (scan convention old).1
  have hbodies := @totalNet_map_withBodies convention old new (layoutOf convention new.splitLines)
    fun _ h => h
  rw [partLines_layoutOf, Braces.totalNet_splitLines, ← renderedLines_nil_pending _
    convention.headerLines 0] at hbodies
  rw [imbalances, List.sum_cons, hshifts]
  simp only [mergedLines, renderedLines, Braces.totalNet_append, Braces.totalNet_nil] at hbodies ⊢
  omega

end Merged

/-! ## Imbalances that cannot cancel out -/

/-- No two of some numbers have opposite signs. -/
def OneSign (numbers : List Int) : Prop := (∀ n ∈ numbers, 0 ≤ n) ∨ ∀ n ∈ numbers, n ≤ 0

instance (numbers : List Int) : Decidable (OneSign numbers) := by
  unfold OneSign
  infer_instance

/-- Numbers of one sign that add up to zero are zero. -/
theorem OneSign.eq_zero {numbers : List Int} (h : OneSign numbers) (hsum : numbers.sum = 0) :
    ∀ n ∈ numbers, n = 0 := by
  rcases h with hpos | hneg
  · intro n hn
    exact List.all_zero_of_le_zero_le_of_sum_eq_zero hpos hsum hn
  · have hneg' : ∀ n ∈ numbers.map (- ·), 0 ≤ n := by
      intro n hn
      obtain ⟨m, hm, rfl⟩ := List.mem_map.1 hn
      have := hneg m hm
      omega
    have hsum' : (numbers.map (- ·)).sum = 0 := by
      rw [← List.sum_neg, hsum, neg_zero]
    intro n hn
    have := List.all_zero_of_le_zero_le_of_sum_eq_zero hneg' hsum' (List.mem_map_of_mem hn)
    omega

/-! ## Main result -/

/-- What the check of a merged file tells.  It passes exactly if the imbalances of the merge add up
to zero.  If no two of them have opposite signs, then a file that passes has exactly the merged
stubs. -/
theorem checkBalanced_mergeTexts (convention : Convention) (old new : Text) :
    ∃ out,
      render (scan convention new).1 (merge (scan convention old).1 (scan convention new).1).1
        convention.headerLines = .ok out ∧
      (checkBalanced out = .ok () ↔ (imbalances convention old new).sum = 0) ∧
      (NoUnbalanced (scan convention old).2 → NoUnbalanced (scan convention new).2 →
        NoDuplicate (scan convention new).2 → OneSign (imbalances convention old new) →
        checkBalanced out = .ok () →
        (scan convention out).1.stubs =
          (merge (scan convention old).1 (scan convention new).1).1.stubs) := by
  obtain ⟨out, hout, hlines⟩ := mergeTexts_eq convention old new
  have hcheck : checkBalanced out = .ok () ↔ (imbalances convention old new).sum = 0 := by
    rw [checkBalanced_eq_ok_iff, ← Braces.totalNet_splitLines, hlines, net_mergedLines]
  refine ⟨out, hout, hcheck, ?_⟩
  intro hold hnew hdup hsign hpassed
  have hzero := hsign.eq_zero (hcheck.1 hpassed)
  have hagree : AgreeOnEdges (scan convention old).1 (scan convention new).1 := by
    apply agreeOnEdges_of_edgeShifts (scanLines_hasParts convention old.splitLines)
    intro shift hshift
    exact hzero shift (List.mem_cons_of_mem _ hshift)
  rw [scan, hlines]
  exact stubs_mergedLines hold hnew (headerOutsideIgnored_of_noDuplicate hdup) hagree

/-- The carried import has braces of its own, one body is kept and one is new. -/
theorem checkBalanced_mergeTexts_letters :
    let old := Text.lit "r\x7b\x7d\nf=\x7b\nkept\n\x7d"
    let new := Text.lit "top\nf=\x7b\n\x7d\ng=\x7b\n\x7d"
    (NoUnbalanced (scan letters old).2 ∧ NoUnbalanced (scan letters new).2 ∧
      NoDuplicate (scan letters new).2 ∧ OneSign (imbalances letters old new) ∧
      (imbalances letters old new).sum = 0) ∧
    ∃ out, mergeTexts letters old new = .ok out ∧ checkBalanced out = .ok () ∧
      (scan letters out).1.stubs =
        (merge (scan letters old).1 (scan letters new).1).1.stubs := by
  intro old new
  have hold : NoUnbalanced (scan letters old).2 := by decide
  have hnew : NoUnbalanced (scan letters new).2 := by decide
  have hdup : NoDuplicate (scan letters new).2 := by decide
  have hsign : OneSign (imbalances letters old new) := by decide
  have hsum : (imbalances letters old new).sum = 0 := by decide
  obtain ⟨out, hout, hcheck, hstubs⟩ := checkBalanced_mergeTexts letters old new
  have hpassed := hcheck.2 hsum
  exact ⟨⟨hold, hnew, hdup, hsign, hsum⟩, out, hout, hpassed,
    hstubs hold hnew hdup hsign hpassed⟩

/-- Nothing that was observed is a warning. -/
def NoWarning (events : List Event) : Prop := ∀ event ∈ events, event.level ≠ .warning

instance (events : List Event) : Decidable (NoWarning events) := by
  unfold NoWarning
  infer_instance

/-- Two files are scanned without a warning and have the given merge, which passes the check and
does not have the merged stubs. -/
def AcceptsMisplaced (convention : Convention) (old new out : Text) : Prop :=
  (NoWarning (scan convention old).2 ∧ NoWarning (scan convention new).2) ∧
  mergeTexts convention old new = .ok out ∧ checkBalanced out = .ok () ∧
  (scan convention out).1.stubs.entries ≠
    (merge (scan convention old).1 (scan convention new).1).1.stubs.entries

instance (convention : Convention) (old new out : Text) :
    Decidable (AcceptsMisplaced convention old new out) := by
  unfold AcceptsMisplaced
  infer_instance

/-- What can cancel out: the declaring and the closing line of one stub, the lines of two stubs, a
carried import and a line of a stub, and a line outside of all stubs and a line of a stub. -/
theorem acceptsMisplaced_letters :
    AcceptsMisplaced letters (Text.lit "f=\x7b\x7b\n\x7d\n\x7b\n\x7d\x7d") (Text.lit "f=\x7b\n\x7d")
      (Text.lit "f=\x7b\n\x7d\n\x7b\n\x7d") ∧
    AcceptsMisplaced letters (Text.lit "f=\x7b\n\x7b\n\x7d\x7d\ng=\x7b\n\x7d")
      (Text.lit "f=\x7b\n\x7d\ng=\x7b\n\x7b\n\x7d\x7d")
      (Text.lit "f=\x7b\n\x7b\n\x7d\ng=\x7b\n\x7d\x7d") ∧
    AcceptsMisplaced letters (Text.lit "r\x7b\nf=\x7b\n\x7d")
      (Text.lit "top\nf=\x7b\n\x7b\n\x7d\x7d") (Text.lit "top\nr\x7b\nf=\x7b\n\x7d\x7d") ∧
    AcceptsMisplaced letters (Text.lit "f=\x7b\n\x7d") (Text.lit "\x7b\nf=\x7b\n\x7b\n\x7d\x7d")
      (Text.lit "\x7b\nf=\x7b\n\x7d\x7d") := by
  decide

end StubGraft
